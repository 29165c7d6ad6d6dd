import AspectQuery.Json.Reader
/-!
# Texts of TOML

A text stands in double quotes with escapes or in single quotes as it is; three quotes enclose
several lines, where a line break right after the opening is dropped and all others stay as they
are. Control characters other than tabs are not allowed.
-/

set_option autoImplicit false

namespace AspectQuery.Toml

def isSpace (c : Char) : Bool := c == ' ' || c == '\t'

def isPlain (c : Char) : Bool := c == '\t' || (decide (0x20 ≤ c.toNat) && c != '\x7f')

/-- What follows a line break. -/
def lineBreak? : List Char → Option (List Char)
  | '\n' :: rest => some rest
  | '\r' :: '\n' :: rest => some rest
  | _ => none

/-- A character by its number in so many hexadecimal digits. -/
def numbered? (count : Nat) (cs : List Char) : Option (Char × List Char) := do
  let digits ← (cs.take count).mapM Json.hexDigit?
  let n := digits.foldl (fun n d => n * 16 + d) 0
  if digits.length = count ∧ n.isValidChar then some (Char.ofNat n, cs.drop count) else none

/-- The character of an escape after its backslash. -/
def escape? : List Char → Option (Char × List Char)
  | 'b' :: rest => some ('\x08', rest)
  | 't' :: rest => some ('\t', rest)
  | 'n' :: rest => some ('\n', rest)
  | 'f' :: rest => some ('\x0c', rest)
  | 'r' :: rest => some ('\r', rest)
  | 'e' :: rest => some ('\x1b', rest)
  | '"' :: rest => some ('"', rest)
  | '\\' :: rest => some ('\\', rest)
  | 'x' :: rest => numbered? 2 rest
  | 'u' :: rest => numbered? 4 rest
  | 'U' :: rest => numbered? 8 rest
  | _ => none

/-- Drops spaces, tabs and line breaks. -/
def dropBlanks : List Char → List Char
  | ' ' :: rest => dropBlanks rest
  | '\t' :: rest => dropBlanks rest
  | '\n' :: rest => dropBlanks rest
  | '\r' :: '\n' :: rest => dropBlanks rest
  | cs => cs

/-- A backslash at the end of a line takes away the break and all blanks after it. -/
def joinedLine? (cs : List Char) : Option (List Char) :=
  (lineBreak? (cs.dropWhile isSpace)).map dropBlanks

/-- The rest of a text on one line, where `quote` closes it. -/
def readLine? (quote : Char) (escapes : Bool) : Nat → List Char → Option (List Char × List Char)
  | 0, _ => none
  | _, [] => none
  | steps + 1, c :: rest =>
    if c = quote then some ([], rest)
    else if escapes ∧ c = '\\' then do
      let (c, rest) ← escape? rest
      let (cs, after) ← readLine? quote escapes steps rest
      return (c :: cs, after)
    else if isPlain c then do
      let (cs, after) ← readLine? quote escapes steps rest
      return (c :: cs, after)
    else none

/-- Three quotes close a text; up to two more before them belong to it. -/
def closing? (quote : Char) (cs : List Char) : Option (List Char × List Char) :=
  let quotes := cs.takeWhile (· = quote)
  if quotes.length < 3 then none
  else
    let inside := min (quotes.length - 3) 2
    some (List.replicate inside quote, cs.drop (inside + 3))

/-- The rest of a text over several lines. -/
def readLines? (quote : Char) (escapes : Bool) : Nat → List Char → Option (List Char × List Char)
  | 0, _ => none
  | _, [] => none
  | steps + 1, c :: rest =>
    match closing? quote (c :: rest) with
    | some closed => some closed
    | none =>
      if escapes ∧ c = '\\' then
        match joinedLine? rest with
        | some rest => readLines? quote escapes steps rest
        | none => do
          let (c, rest) ← escape? rest
          let (cs, after) ← readLines? quote escapes steps rest
          return (c :: cs, after)
      else if isPlain c || (lineBreak? (c :: rest)).isSome then do
        let (cs, after) ← readLines? quote escapes steps rest
        return (c :: cs, after)
      else none

/-- A text over several lines after its opening quotes. -/
def readBlock? (quote : Char) (cs : List Char) : Option (List Char × List Char) :=
  let cs := (lineBreak? cs).getD cs
  readLines? quote (quote = '"') (cs.length + 1) cs

/-- A text on one line after its opening quote. -/
def readQuoted? (quote : Char) (cs : List Char) : Option (List Char × List Char) :=
  readLine? quote (quote = '"') (cs.length + 1) cs

end AspectQuery.Toml
