import AspectQuery.Toml.Quoted
import AspectQuery.Toml.Scalar
import AspectQuery.Toml.Table
/-!
# Reading TOML

A text is a list of headers and of names with values, each on a line of its own. Lists and inline
tables may go over several lines and end with a comma.
-/

set_option autoImplicit false

namespace AspectQuery.Toml

def skipSpace (cs : List Char) : List Char := cs.dropWhile isSpace

/-- What follows a comment, if there is one; the end of the line stays. -/
def skipComment? : List Char → Option (List Char)
  | '#' :: rest =>
    match rest.dropWhile isPlain with
    | [] => some []
    | after => (lineBreak? after).map fun _ => after
  | cs => some cs

/-- Skips blanks, comments and line breaks. -/
def skipBlankLines? : Nat → List Char → Option (List Char)
  | 0, _ => none
  | steps + 1, cs => do
    let cs ← skipComment? (skipSpace cs)
    match lineBreak? cs with
    | none => return cs
    | some rest => skipBlankLines? steps rest

def skipLines? (cs : List Char) : Option (List Char) := skipBlankLines? (cs.length + 1) cs

/-- What follows the end of a line. -/
def endLine? (cs : List Char) : Option (List Char) := do
  match ← skipComment? (skipSpace cs) with
  | [] => return []
  | cs => lineBreak? cs

def isNameChar (c : Char) : Bool := c.isAlphanum || c == '_' || c == '-'

def readName? : List Char → Option (String × List Char)
  | '"' :: rest => (readQuoted? '"' rest).map fun r => (String.ofList r.1, r.2)
  | '\'' :: rest => (readQuoted? '\'' rest).map fun r => (String.ofList r.1, r.2)
  | cs =>
    match cs.takeWhile isNameChar with
    | [] => none
    | name => some (String.ofList name, cs.dropWhile isNameChar)

/-- Names with points between them, and what follows the blanks behind them. -/
def readNameList? : Nat → List Char → Option (List String × List Char)
  | 0, _ => none
  | steps + 1, cs => do
    let (name, cs) ← readName? (skipSpace cs)
    match skipSpace cs with
    | '.' :: rest =>
      let (names, after) ← readNameList? steps rest
      return (name :: names, after)
    | after => return ([name], after)

/-- How many tables may be nested by names with points between them. -/
def nameLimit : Nat := 80

def readNames? (steps : Nat) (cs : List Char) : Option (List String × List Char) :=
  (readNameList? steps cs).filter fun r => r.1.length ≤ nameLimit

/-- A quote within a word is part of it. -/
def isWordChar (c : Char) : Bool :=
  !(isSpace c || c == '\n' || c == '\r' || c == ',' || c == '=' || c == '#' || c == '[' ||
    c == ']' || c == '\x7b' || c == '\x7d')

/-- A date and a time of day may have one blank between them. -/
def takeWord (cs : List Char) : List Char × List Char :=
  let word := cs.takeWhile isWordChar
  let rest := cs.dropWhile isWordChar
  match rest with
  | ' ' :: c :: after =>
    if isDate word ∧ c.isDigit then
      (word ++ ' ' :: (c :: after).takeWhile isWordChar, (c :: after).dropWhile isWordChar)
    else (word, rest)
  | _ => (word, rest)

def readWord? (cs : List Char) : Option (Document × List Char) :=
  let (word, rest) := takeWord cs
  (word? word).map fun d => (d, rest)

def textDocument (r : List Char × List Char) : Document × List Char :=
  (.text (String.ofList r.1), r.2)

/-- How deep lists and inline tables may be nested. -/
def depthLimit : Nat := 80

mutual

/-- One value, with lists and tables at most `depth` deep. -/
def readValue? : Nat → Nat → List Char → Option (Document × List Char)
  | 0, _, _ => none
  | steps + 1, depth, cs =>
    match cs with
    | '"' :: '"' :: '"' :: rest => (readBlock? '"' rest).map textDocument
    | '"' :: rest => (readQuoted? '"' rest).map textDocument
    | '\'' :: '\'' :: '\'' :: rest => (readBlock? '\'' rest).map textDocument
    | '\'' :: rest => (readQuoted? '\'' rest).map textDocument
    | '[' :: rest =>
      if depth = 0 then none
      else (readItems? steps (depth - 1) rest).map fun r => (.list r.1, r.2)
    | '\x7b' :: rest =>
      if depth = 0 then none
      else (readMembers? steps (depth - 1) [] rest).map fun r =>
        (.record (Node.entriesMembers r.1), r.2)
    | cs => readWord? cs

/-- The items of a list up to its closing bracket. -/
def readItems? : Nat → Nat → List Char → Option (List Document × List Char)
  | 0, _, _ => none
  | steps + 1, depth, cs => do
    match ← skipLines? cs with
    | ']' :: after => return ([], after)
    | cs =>
      let (d, cs) ← readValue? steps depth cs
      match ← skipLines? cs with
      | ',' :: rest =>
        let (ds, after) ← readItems? steps depth rest
        return (d :: ds, after)
      | ']' :: after => return ([d], after)
      | _ => none

/-- The members of an inline table up to its closing brace, behind those that are there. -/
def readMembers? : Nat → Nat → Entries → List Char → Option (Entries × List Char)
  | 0, _, _, _ => none
  | steps + 1, depth, entries, cs => do
    match ← skipLines? cs with
    | '\x7d' :: after => return (entries, after)
    | cs =>
      let (names, cs) ← readNames? steps cs
      match cs with
      | '=' :: rest =>
        let (d, cs) ← readValue? steps depth (skipSpace rest)
        let entries ← entries.set names d .header
        match ← skipLines? cs with
        | ',' :: rest => readMembers? steps depth entries rest
        | '\x7d' :: after => return (entries, after)
        | _ => none
      | _ => none

end

/-- The table of the latest header, and all tables. -/
structure State where
  table : List String := []
  entries : Entries := []

/-- A header after its opening brackets. -/
def readHeader? (element : Bool) (steps : Nat) (state : State) (cs : List Char) :
    Option (State × List Char) := do
  let (names, cs) ← readNames? steps cs
  let entries ← state.entries.header element names
  let rest ← expect? ']' cs
  let rest ← if element then expect? ']' rest else some rest
  return ({ table := names, entries }, rest)

def readPair? (steps : Nat) (state : State) (cs : List Char) : Option (State × List Char) := do
  let (names, cs) ← readNames? steps cs
  let (d, cs) ← readValue? steps depthLimit (skipSpace (← expect? '=' cs))
  return ({ state with entries := ← state.entries.setIn state.table names d }, cs)

def readExpression? (steps : Nat) (state : State) : List Char → Option (State × List Char)
  | '[' :: '[' :: rest => readHeader? true steps state rest
  | '[' :: rest => readHeader? false steps state rest
  | cs => readPair? steps state cs

def readExpressions? : Nat → State → List Char → Option State
  | 0, _, _ => none
  | steps + 1, state, cs => do
    match ← skipLines? cs with
    | [] => return state
    | cs =>
      let (state, cs) ← readExpression? steps state cs
      readExpressions? steps state (← endLine? cs)

/-- A mark of the byte order may stand before the text. -/
def skipMark : List Char → List Char
  | '\ufeff' :: cs => cs
  | cs => cs

/-- The document that a text spells. Every step takes a character, so their number bounds them. -/
def read? (s : String) : Option Document := do
  let cs := skipMark s.toList
  let state ← readExpressions? (cs.length + 2) {} cs
  return .record (Node.entriesMembers state.entries)

end AspectQuery.Toml
