import AspectQuery.Document
import AspectQuery.Number.Shortest
/-!
# Writing JSON

Two layouts: without any blanks, and with one member or item a line, two spaces deeper a level.
-/

set_option autoImplicit false

namespace AspectQuery.Json

def hexDigits : List Char := "0123456789abcdef".toList

def hexDigit (n : Nat) : Char := hexDigits[n]?.getD '0'

/-- Quotes, backslashes and control characters are escaped, the latter by letter where there is one. -/
def escapeChar (c : Char) : List Char :=
  match c with
  | '"' => ['\\', '"']
  | '\\' => ['\\', '\\']
  | '\x08' => ['\\', 'b']
  | '\x0c' => ['\\', 'f']
  | '\n' => ['\\', 'n']
  | '\r' => ['\\', 'r']
  | '\t' => ['\\', 't']
  | _ =>
    if c.toNat < 0x20 then
      ['\\', 'u', '0', '0', hexDigit (c.toNat / 16), hexDigit (c.toNat % 16)]
    else [c]

def writeText (s : String) : String :=
  "\"" ++ String.ofList (s.toList.flatMap escapeChar) ++ "\""

/-- The digits with a point after the first `whole` of them. -/
def pointAfter (text : String) (whole : Nat) : String :=
  String.ofList (text.toList.take whole) ++ "." ++ String.ofList (text.toList.drop whole)

/-- Positional between 1e-5 and 1e16, with a point always; else with an exponent. -/
def writeDecimal (d : Decimal) : String :=
  let text := d.digits.repr
  let point : Int := text.length + d.power
  if 0 ≤ d.power ∧ point ≤ 16 then text ++ Decimal.zeros d.power.toNat ++ ".0"
  else if 0 < point ∧ point ≤ 16 then pointAfter text point.toNat
  else if -5 < point ∧ point ≤ 0 then "0." ++ Decimal.zeros (-point).toNat ++ text
  else (if text.length = 1 then text else pointAfter text 1) ++ "e" ++ toString (point - 1)

/-- Numbers that are not finite are written as null. -/
def writeFloat (x : Binary64) : String :=
  if x.isFinite then
    (if x.negative then "-" else "") ++ (if x.isZero then "0.0" else writeDecimal x.shortest)
  else "null"

def writeLiteral : Document → String
  | .boolean b => if b then "true" else "false"
  | .integer i => toString i
  | .float x => writeFloat x
  | .text s => writeText s
  | _ => "null"

mutual

def compact : Document → String
  | .list items => "[" ++ String.intercalate "," (compactItems items) ++ "]"
  | .record members => "\x7b" ++ String.intercalate "," (compactMembers members) ++ "\x7d"
  | d => writeLiteral d

def compactItems : List Document → List String
  | [] => []
  | d :: rest => compact d :: compactItems rest

def compactMembers : List (String × Document) → List String
  | [] => []
  | (name, d) :: rest => (writeText name ++ ":" ++ compact d) :: compactMembers rest

end

def lineBreak (depth : Nat) : String := "\n" ++ String.ofList (List.replicate (2 * depth) ' ')

/-- Lines between brackets, each on a level deeper than the brackets. -/
def block (opening closing : String) (depth : Nat) (lines : List String) : String :=
  if lines.isEmpty then opening ++ closing
  else
    opening ++ lineBreak (depth + 1) ++ String.intercalate ("," ++ lineBreak (depth + 1)) lines ++
      lineBreak depth ++ closing

mutual

def prettyAt : Nat → Document → String
  | depth, .list items => block "[" "]" depth (prettyItems (depth + 1) items)
  | depth, .record members => block "\x7b" "\x7d" depth (prettyMembers (depth + 1) members)
  | _, d => writeLiteral d

def prettyItems : Nat → List Document → List String
  | _, [] => []
  | depth, d :: rest => prettyAt depth d :: prettyItems depth rest

def prettyMembers : Nat → List (String × Document) → List String
  | _, [] => []
  | depth, (name, d) :: rest =>
    (writeText name ++ ": " ++ prettyAt depth d) :: prettyMembers depth rest

end

def pretty (d : Document) : String := prettyAt 0 d

end AspectQuery.Json
