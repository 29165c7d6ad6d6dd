import AspectQuery.Filter
import AspectQuery.Options
import AspectQuery.Scope.Mentions
/-!
# Conditions

A condition is a filter whose attributes are tied to the places where their values are stored. The
values of a bounded attribute stand in one column for each item, those of a collection in rows of
their own. All values have the type that the attribute declares.
-/

set_option autoImplicit false

namespace AspectQuery

/-- The rows that hold the values of a collection, under the names of their table and columns. -/
inductive CollectionRows where
  | direct (table itemId value : String)
  /-- Rows of item ids and value ids, and the values under their ids. -/
  | shared (junction values itemId valueId value : String)
  deriving DecidableEq

/-- What a condition is about. -/
inductive Subject where
  | column (m : Mention)
  | collection (path : AttributePath) (rows : CollectionRows)
  deriving DecidableEq

inductive Test where
  | relational (op : Relation) (value : Value)
  | like (pattern : String) (escape : Option Char) (caseSensitive : Bool)
  | similarTo (pattern : String) (escape : Option Char)
  | between (low high : Value)
  /-- Equality to one of the values, which are cut into lists of limited length. -/
  | among (chunks : List (List Value))
  deriving DecidableEq

/-- The value of a column meets the test, or one of the values of a collection does. -/
inductive Condition where
  | never
  | not (c : Condition)
  | junction (op : Connective) (operands : List Condition)
  | isEmpty (s : Subject)
  | test (s : Subject) (t : Test)
  | itemIds (chunks : List (List ItemId))

namespace Subject

def mentions : Subject → List Mention
  | .column m => [m]
  | .collection _ _ => []

def aspect : Subject → AspectId
  | .column m => m.target.aspect
  | .collection path _ => path.aspect

end Subject

namespace Condition

mutual

/-- The columns that the condition needs, in the order of their text. -/
def mentions : Condition → List Mention
  | .never => []
  | .not c => c.mentions
  | .junction _ operands => mentionsOfAll operands
  | .isEmpty s => s.mentions
  | .test s _ => s.mentions
  | .itemIds _ => []

def mentionsOfAll : List Condition → List Mention
  | [] => []
  | c :: rest => c.mentions ++ mentionsOfAll rest

end

mutual

def aspects : Condition → List AspectId
  | .never => []
  | .not c => c.aspects
  | .junction _ operands => aspectsOfAll operands
  | .isEmpty s => [s.aspect]
  | .test s _ => [s.aspect]
  | .itemIds _ => []

def aspectsOfAll : List Condition → List AspectId
  | [] => []
  | c :: rest => c.aspects ++ aspectsOfAll rest

end

end Condition

end AspectQuery
