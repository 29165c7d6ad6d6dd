import AspectQuery.Predicate.Condition
/-!
# The text of conditions

The text of a condition leaves open the columns of its mentions, its values and the anchor, the
column of item ids. A condition with several parts is put into parentheses, so that it can stand
wherever a condition may stand.
-/

set_option autoImplicit false

namespace AspectQuery

inductive Segment where
  | sql (text : String)
  | column (m : Mention)
  | value (v : Value)
  | anchor
  deriving DecidableEq

/-- A segment whose value is known by its place in the list of parameters. -/
inductive Part where
  | sql (text : String)
  | attribute (index : Nat)
  | param (place : Nat)
  | anchor
  deriving DecidableEq

namespace Segment

def value? : Segment → Option Value
  | .value v => some v
  | _ => none

/-- The values, in the order of their placeholders. -/
def params (ss : List Segment) : List Value := ss.filterMap value?

/-- Numbers the values in their order, from a number on. -/
def number : Nat → List Segment → List Part
  | _, [] => []
  | n, .sql text :: rest => .sql text :: number n rest
  | n, .column m :: rest => .attribute m.index :: number n rest
  | n, .value _ :: rest => .param n :: number (n + 1) rest
  | n, .anchor :: rest => .anchor :: number n rest

/-- The lists one after another with a text between each two. -/
def separated (separator : String) : List (List Segment) → List Segment
  | [] => []
  | [ss] => ss
  | ss :: rest => ss ++ .sql separator :: separated separator rest

/-- One list alone stays as it is; several are put into parentheses. -/
def grouped (separator : String) : List (List Segment) → List Segment
  | [ss] => ss
  | sss => .sql "(" :: separated separator sss ++ [.sql ")"]

/-- Membership in one of several lists of values. -/
def membership (operand : Segment) (chunks : List (List Value)) : List Segment :=
  grouped Connective.or.sql <| chunks.map fun values =>
    [operand, .sql " IN ("] ++ separated ", " (values.map fun v => [.value v]) ++ [.sql ")"]

end Segment

namespace Test

def escapeSegments : Option Char → List Segment
  | none => []
  | some c => [.sql (" ESCAPE " ++ Sql.quote (String.singleton c))]

/-- The test of an operand. -/
def segments (operand : Segment) : Test → List Segment
  | .relational op v => [operand, .sql (" " ++ op.sql ++ " "), .value v]
  | .like pattern escape true =>
    [operand, .sql " LIKE ", .value (.text pattern)] ++ escapeSegments escape
  | .like pattern escape false =>
    [.sql "UPPER(", operand, .sql ") LIKE UPPER(", .value (.text pattern), .sql ")"] ++
      escapeSegments escape
  | .similarTo pattern escape =>
    [operand, .sql " SIMILAR TO ", .value (.text pattern)] ++ escapeSegments escape
  | .between low high => [operand, .sql " BETWEEN ", .value low, .sql " AND ", .value high]
  | .among chunks => Segment.membership operand chunks

end Test

namespace CollectionRows

/-- The start of a condition that some row of the item meets what follows. -/
def existence : CollectionRows → String
  | .direct table itemId _ =>
    "EXISTS(SELECT VAL." ++ itemId ++ " FROM " ++ table ++ " VAL WHERE VAL." ++ itemId ++ " = "
  | .shared junction values itemId valueId _ =>
    "EXISTS(SELECT NM." ++ itemId ++ " FROM " ++ junction ++ " NM INNER JOIN " ++ values ++
      " VAL ON NM." ++ valueId ++ " = VAL." ++ valueId ++ " WHERE NM." ++ itemId ++ " = "

/-- The column of the values within these rows. -/
def valueColumn : CollectionRows → String
  | .direct _ _ value => "VAL." ++ value
  | .shared _ _ _ _ value => "VAL." ++ value

end CollectionRows

namespace Condition

mutual

def segments : Condition → List Segment
  | .never => [.sql "1 = 2"]
  | .not c => .sql "NOT (" :: c.segments ++ [.sql ")"]
  | .junction op operands =>
    .sql "(" :: Segment.separated op.sql (segmentsOfAll operands) ++ [.sql ")"]
  | .isEmpty (.column m) => [.column m, .sql " IS NULL"]
  | .isEmpty (.collection _ rows) => [.sql ("NOT " ++ rows.existence), .anchor, .sql " )"]
  | .test (.column m) t => t.segments (.column m)
  | .test (.collection _ rows) t =>
    [.sql rows.existence, .anchor, .sql " AND "] ++ t.segments (.sql rows.valueColumn) ++
      [.sql ")"]
  | .itemIds chunks => Segment.membership .anchor (chunks.map fun ids => ids.map Value.id)

def segmentsOfAll : List Condition → List (List Segment)
  | [] => []
  | c :: rest => c.segments :: segmentsOfAll rest

end

end Condition

end AspectQuery
