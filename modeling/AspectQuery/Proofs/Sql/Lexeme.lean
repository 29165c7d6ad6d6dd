import AspectQuery.Proofs.Sql.Formula
import AspectQuery.Sql.Identifier
/-!
# Lexemes of conditions

The text of a condition is cut into words, signs and literals, each as long as it can be. A text may
hold operands that are not written out; such an operand is a lexeme of its own. The pieces of a text
can be read apart where a piece ends with a sign or the next one begins with one.
-/

set_option autoImplicit false

namespace AspectQuery.Sql

inductive Symbol where
  | char (c : Char)
  | operand (x : Operand)

inductive Lexeme where
  | word (s : String)
  | operand (x : Operand)
  | placeholder
  | relation (op : Relation)
  | literal (s : String)
  | openParen
  | closeParen
  | comma

/-- A column is written with a point, which also belongs to its word. -/
def isWordChar (c : Char) : Bool := isIdentifierChar c || c == '.'

def isRelationChar (c : Char) : Bool := c == '<' || c == '=' || c == '>'

/-- The relation of a sign. -/
def relation? (sign : List Char) : Option Relation :=
  [Relation.eq, .ne, .lt, .le, .gt, .ge].find? fun op => op.sql.toList = sign

/-- Digits are a number, a word with a point is a column, and other words are names or keywords. -/
def Lexeme.ofWord (cs : List Char) : Lexeme :=
  if cs.all Char.isDigit then .operand (.constant (.integer (.ofNat (Nat.ofDigitChars 10 cs 0))))
  else if '.' ∈ cs then
    .operand (.cell ⟨String.ofList (cs.takeWhile (· ≠ '.')),
      String.ofList ((cs.dropWhile (· ≠ '.')).drop 1)⟩)
  else .word (String.ofList cs)

/-- The lexeme that is being read, with its characters so far. -/
inductive Mode where
  | blank
  | word (cs : List Char)
  | relation (cs : List Char)
  | literal (cs : List Char)
  /-- Behind a quote that ends the literal, unless another quote follows. -/
  | quote (cs : List Char)

namespace Mode

/-- Goes on with the lexeme, if the character belongs to it. -/
def extend? : Mode → Char → Option Mode
  | .blank, _ => none
  | .word cs, c => if isWordChar c then some (.word (cs ++ [c])) else none
  | .relation cs, c => if isRelationChar c then some (.relation (cs ++ [c])) else none
  | .literal cs, c => some (if c = '\'' then .quote cs else .literal (cs ++ [c]))
  | .quote cs, c => if c = '\'' then some (.literal (cs ++ ['\''])) else none

/-- Ends the lexeme; a literal has to be closed. -/
def finish? : Mode → Option (List Lexeme)
  | .blank => some []
  | .word cs => some [.ofWord cs]
  | .relation cs => (relation? cs).map fun op => [.relation op]
  | .literal _ => none
  | .quote cs => some [.literal (String.ofList cs)]

/-- Begins with a character that belongs to no lexeme before it. -/
def begin? (c : Char) : Option (List Lexeme × Mode) :=
  if c = ' ' then some ([], .blank)
  else if c = '(' then some ([.openParen], .blank)
  else if c = ')' then some ([.closeParen], .blank)
  else if c = ',' then some ([.comma], .blank)
  else if c = '?' then some ([.placeholder], .blank)
  else if c = '\'' then some ([], .literal [])
  else if isWordChar c then some ([], .word [c])
  else if isRelationChar c then some ([], .relation [c])
  else none

def step? (m : Mode) : Symbol → Option (List Lexeme × Mode)
  | .char c =>
    match m.extend? c with
    | some m => some ([], m)
    | none => do
      let done ← m.finish?
      let (ls, m) ← begin? c
      return (done ++ ls, m)
  | .operand x => do
    let done ← m.finish?
    return (done ++ [.operand x], .blank)

end Mode

/-- The lexemes that end within a text, and what is being read at its end. -/
def scan : Mode → List Symbol → Option (List Lexeme × Mode)
  | m, [] => some ([], m)
  | m, s :: ss => do
    let (ls, m) ← m.step? s
    let (ms, m) ← scan m ss
    return (ls ++ ms, m)

def lexemes? (ss : List Symbol) : Option (List Lexeme) := do
  let (ls, m) ← scan .blank ss
  return ls ++ (← m.finish?)

def symbols (s : String) : List Symbol := s.toList.map .char

end AspectQuery.Sql
