import AspectQuery.Json.Number
/-!
# Reading JSON

The strict grammar, over the characters of the text. A text literal with half of a surrogate pair
is spelled well but denotes nothing, and neither does a record with such a name.
-/

set_option autoImplicit false

namespace AspectQuery.Json

def isBlank (c : Char) : Bool := c == ' ' || c == '\n' || c == '\t' || c == '\r'

def skipBlank (cs : List Char) : List Char := cs.dropWhile isBlank

def digit? (c : Char) : Option Nat := if c.isDigit then some (c.toNat - '0'.toNat) else none

def hexDigit? (c : Char) : Option Nat :=
  if c.isDigit then some (c.toNat - '0'.toNat)
  else if 'a' ≤ c ∧ c ≤ 'f' then some (c.toNat - 'a'.toNat + 10)
  else if 'A' ≤ c ∧ c ≤ 'F' then some (c.toNat - 'A'.toNat + 10)
  else none

/-- The longest run of digits, and what follows it. -/
def takeRun : List Char → List Nat × List Char
  | [] => ([], [])
  | c :: rest =>
    match digit? c with
    | some d =>
      let (ds, after) := takeRun rest
      (d :: ds, after)
    | none => ([], c :: rest)

/-- At least one digit. -/
def takeRun? (cs : List Char) : Option (List Nat × List Char) :=
  match takeRun cs with
  | ([], _) => none
  | run => some run

/-- Digits before the point: a zero stands alone. -/
def readWhole? : List Char → Option (List Nat × List Char)
  | '0' :: rest => if (takeRun rest).1.isEmpty then some ([0], rest) else none
  | cs => takeRun? cs

def readFraction? : List Char → Option (List Nat × List Char)
  | '.' :: rest => takeRun? rest
  | cs => some ([], cs)

def readExponent? : List Char → Option (Option (Bool × List Nat) × List Char)
  | c :: rest =>
    if c = 'e' ∨ c = 'E' then
      let (negative, digits) :=
        match rest with
        | '+' :: after => (false, after)
        | '-' :: after => (true, after)
        | _ => (false, rest)
      (takeRun? digits).map fun run => (some (negative, run.1), run.2)
    else some (none, c :: rest)
  | [] => some (none, [])

def readNumber? (cs : List Char) : Option (Document × List Char) := do
  let (negative, cs) := match cs with
    | '-' :: rest => (true, rest)
    | _ => (false, cs)
  let (whole, cs) ← readWhole? cs
  let (fraction, cs) ← readFraction? cs
  let (exponent, cs) ← readExponent? cs
  return (NumberLiteral.document ⟨negative, whole, fraction, exponent⟩, cs)

/-- One element of a text literal: a character, or a 16-bit unit given by its number. -/
inductive TextUnit where
  | char (c : Char)
  | unit (n : Nat)

def shortEscape? : Char → Option Char
  | '"' => some '"'
  | '\\' => some '\\'
  | '/' => some '/'
  | 'b' => some '\x08'
  | 'f' => some '\x0c'
  | 'n' => some '\n'
  | 'r' => some '\r'
  | 't' => some '\t'
  | _ => none

/-- The elements up to the closing quote, and what follows it. -/
def readUnits? : List Char → Option (List TextUnit × List Char)
  | [] => none
  | '"' :: rest => some ([], rest)
  | '\\' :: 'u' :: a :: b :: c :: d :: rest => do
    let a ← hexDigit? a
    let b ← hexDigit? b
    let c ← hexDigit? c
    let d ← hexDigit? d
    let (units, after) ← readUnits? rest
    return (.unit (((a * 16 + b) * 16 + c) * 16 + d) :: units, after)
  | '\\' :: e :: rest => do
    let c ← shortEscape? e
    let (units, after) ← readUnits? rest
    return (.char c :: units, after)
  | c :: rest =>
    if c.toNat < 0x20 ∨ c = '\\' then none
    else do
      let (units, after) ← readUnits? rest
      return (.char c :: units, after)

def isHighSurrogate (n : Nat) : Bool := decide (0xD800 ≤ n ∧ n < 0xDC00)

def isLowSurrogate (n : Nat) : Bool := decide (0xDC00 ≤ n ∧ n < 0xE000)

/-- Joins surrogate pairs; nothing if half of a pair stands alone. -/
def joinUnits? : List TextUnit → Option (List Char)
  | [] => some []
  | .char c :: rest => (joinUnits? rest).map (c :: ·)
  | .unit high :: .unit low :: rest =>
    if isHighSurrogate high then
      if isLowSurrogate low then
        (joinUnits? rest).map
          (Char.ofNat (0x10000 + (high - 0xD800) * 0x400 + (low - 0xDC00)) :: ·)
      else none
    else if isLowSurrogate high then none
    else (joinUnits? (.unit low :: rest)).map (Char.ofNat high :: ·)
  | .unit n :: rest =>
    if isHighSurrogate n || isLowSurrogate n then none
    else (joinUnits? rest).map (Char.ofNat n :: ·)

def textDocument (units : List TextUnit) : Document :=
  match joinUnits? units with
  | some cs => .text (String.ofList cs)
  | none => .unreadable

/-- A record whose names all denote something. -/
def recordDocument (members : List (Option String × Document)) : Document :=
  match members.mapM fun m => m.1.map fun name => (name, m.2) with
  | some members => .record members
  | none => .unreadable

def readWord? (word : String) (d : Document) (cs : List Char) : Option (Document × List Char) :=
  if word.toList.isPrefixOf cs then some (d, cs.drop word.length) else none

mutual

/-- One value; the first argument bounds the number of steps. -/
def readValue? : Nat → List Char → Option (Document × List Char)
  | 0, _ => none
  | steps + 1, cs =>
    match skipBlank cs with
    | '\x7b' :: rest =>
      match skipBlank rest with
      | '\x7d' :: after => some (.record [], after)
      | rest => (readMembers? steps rest).map fun r => (recordDocument r.1, r.2)
    | '[' :: rest =>
      match skipBlank rest with
      | ']' :: after => some (.list [], after)
      | rest => (readItems? steps rest).map fun r => (.list r.1, r.2)
    | '"' :: rest => (readUnits? rest).map fun r => (textDocument r.1, r.2)
    | 'n' :: rest => readWord? "null" .null ('n' :: rest)
    | 't' :: rest => readWord? "true" (.boolean true) ('t' :: rest)
    | 'f' :: rest => readWord? "false" (.boolean false) ('f' :: rest)
    | rest => readNumber? rest

/-- The items of a list after its opening bracket. -/
def readItems? : Nat → List Char → Option (List Document × List Char)
  | 0, _ => none
  | steps + 1, cs => do
    let (d, cs) ← readValue? steps cs
    match skipBlank cs with
    | ',' :: rest =>
      let (ds, after) ← readItems? steps rest
      return (d :: ds, after)
    | ']' :: after => return ([d], after)
    | _ => none

/-- The members of a record after its opening brace. -/
def readMembers? : Nat → List Char → Option (List (Option String × Document) × List Char)
  | 0, _ => none
  | steps + 1, cs =>
    match skipBlank cs with
    | '"' :: rest => do
      let (units, rest) ← readUnits? rest
      let name := (joinUnits? units).map String.ofList
      match skipBlank rest with
      | ':' :: rest =>
        let (d, rest) ← readValue? steps rest
        match skipBlank rest with
        | ',' :: rest =>
          let (members, after) ← readMembers? steps rest
          return ((name, d) :: members, after)
        | '\x7d' :: after => return ([(name, d)], after)
        | _ => none
      | _ => none
    | _ => none

end

/-- The document that a text spells. Every step takes a character, so their number bounds them. -/
def read? (s : String) : Option Document := do
  let (d, rest) ← readValue? (s.toList.length + 1) s.toList
  if (skipBlank rest).isEmpty then some d else none

end AspectQuery.Json
