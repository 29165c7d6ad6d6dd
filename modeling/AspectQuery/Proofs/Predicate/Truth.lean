import AspectQuery.Predicate
import AspectQuery.Proofs.Sql.Contents
/-!
# The truth of filters

A filter prescribes a truth value for every item. A test on a collection asks whether one of the
values of the item meets it; a combination of no filters holds, whatever its connective. The
predicate of a filter has the truth value that the filter prescribes.
-/

set_option autoImplicit false

namespace AspectQuery

open Sql (Operators Contents Truth)

/-- An item as conditions see it: its id and the values of its bounded attributes. -/
structure ItemView where
  id : Value
  bounded : Attribute → Value

section

variable (ops : Operators) (db : Contents)

/-- The values in the rows that a column gives to an item. -/
def Sql.Contents.valuesOf (table itemId value : String) (id : Value) : List Value :=
  ((db table).filter fun r => ops.relate .eq (r itemId) id = .holds).map fun r => r value

/-- The values of a collection, one for each of its rows. -/
def Attribute.collected (naming : Naming) (target : Attribute) (id : Value) : List Value :=
  match target.storage with
  | .oneToMany table => db.valuesOf ops table naming.itemIdColumn naming.valueColumn id
  | .manyToMany junction values =>
    (db.valuesOf ops junction naming.itemIdColumn naming.valueIdColumn id).flatMap fun valueId =>
      ((db values).filter fun r => ops.relate .eq valueId (r naming.valueIdColumn) = .holds).map
        fun r => r naming.valueColumn
  | _ => []

/-- The value with which a filter compares an attribute. -/
def Attribute.parameter (target : Attribute) (v : Value) : Value :=
  (v.coerce target.valueType).toOption.getD .null

def patternTruth (pattern : String) (escape : Option Char) (caseSensitive : Bool) (v : Value) :
    Truth :=
  if caseSensitive then ops.like v (.text pattern) (escape.map String.singleton)
  else ops.like (ops.upper v) (ops.upper (.text pattern)) (escape.map String.singleton)

def memberTruth (vs : List Value) (v : Value) : Truth := .any (vs.map (ops.relate .eq v))

/-- The truth of a test on the attribute of a path. -/
def testTruth (schema : Schema) (item : ItemView) (path : AttributePath)
    (test : Attribute → Value → Truth) : Truth :=
  match schema.lookup path with
  | .error _ => .unknown
  | .ok target =>
    if target.bounded then test target (item.bounded target)
    else .ofBool ((target.collected ops db schema.naming item.id).any fun v =>
      test target v = .holds)

/-- Whether an item has no value of the attribute of a path. -/
def emptyTruth (schema : Schema) (item : ItemView) (path : AttributePath) : Truth :=
  match schema.lookup path with
  | .error _ => .unknown
  | .ok target =>
    .ofBool (if target.bounded then (item.bounded target).isNull
      else (target.collected ops db schema.naming item.id).isEmpty)

namespace Filter

mutual

def truth (schema : Schema) (item : ItemView) : Filter → Truth
  | .combine op operands =>
    if operands.isEmpty then .holds else op.truth (truths schema item operands)
  | .not filter => (filter.truth schema item).not
  | .empty path => emptyTruth ops db schema item path
  | .relational path op v =>
    testTruth ops db schema item path fun target w => ops.relate op w (target.parameter v)
  | .like path pattern escape caseSensitive =>
    testTruth ops db schema item path fun _ => patternTruth ops pattern escape caseSensitive
  | .similarTo path pattern escape =>
    testTruth ops db schema item path fun _ w =>
      ops.similarTo w (.text pattern) (escape.map String.singleton)
  | .between path low high =>
    testTruth ops db schema item path fun target w =>
      ops.between w (target.parameter low) (target.parameter high)
  | .among path vs =>
    testTruth ops db schema item path fun target => memberTruth ops (vs.map target.parameter)
  | .itemIds ids => memberTruth ops (ids.map Value.id) item.id
  | .never => .fails

def truths (schema : Schema) (item : ItemView) : List Filter → List Truth
  | [] => []
  | filter :: rest => filter.truth schema item :: truths schema item rest

end

/-- No filter at all holds for every item. -/
def truth? (schema : Schema) (item : ItemView) : Option Filter → Truth
  | none => .holds
  | some filter => filter.truth ops db schema item

end Filter

def CollectionRows.values (rows : CollectionRows) (id : Value) : List Value :=
  match rows with
  | .direct table itemId value => db.valuesOf ops table itemId value id
  | .shared junction values itemId valueId value =>
    (db.valuesOf ops junction itemId valueId id).flatMap fun v =>
      ((db values).filter fun r => ops.relate .eq v (r valueId) = .holds).map fun r => r value

def Test.truth (t : Test) (v : Value) : Truth :=
  match t with
  | .relational op w => ops.relate op v w
  | .like pattern escape caseSensitive => patternTruth ops pattern escape caseSensitive v
  | .similarTo pattern escape => ops.similarTo v (.text pattern) (escape.map String.singleton)
  | .between low high => ops.between v low high
  | .among chunks => memberTruth ops chunks.flatten v

namespace Condition

mutual

/-- The truth of a condition for the item of an id, whose values of mentions are given. -/
def truth (id : Value) (column : Mention → Value) : Condition → Truth
  | .never => .fails
  | .not c => (c.truth id column).not
  | .junction op operands => op.truth (truths id column operands)
  | .isEmpty (.column m) => .ofBool (column m).isNull
  | .isEmpty (.collection _ rows) => .ofBool (rows.values ops db id).isEmpty
  | .test (.column m) t => t.truth ops (column m)
  | .test (.collection _ rows) t =>
    .ofBool ((rows.values ops db id).any fun v => t.truth ops v = .holds)
  | .itemIds chunks => memberTruth ops (chunks.flatten.map Value.id) id

def truths (id : Value) (column : Mention → Value) : List Condition → List Truth
  | [] => []
  | c :: rest => c.truth id column :: truths id column rest

end

end Condition

def Predicate.truth (id : Value) (column : Mention → Value) (p : Predicate) : Truth :=
  match p.condition with
  | none => .holds
  | some c => c.truth ops db id column

end

end AspectQuery
