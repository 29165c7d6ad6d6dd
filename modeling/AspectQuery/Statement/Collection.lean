import AspectQuery.Statement
/-!
# Statements of collections

The statement of a collection starts at the rows that hold its values, so that it has one row for
each value of each item that meets the predicate. From these tables come the values of every item,
the distinct values, or the number of items for each of these.
-/

set_option autoImplicit false

namespace AspectQuery

/-- The values of every item, in the order that the item gives them. -/
structure CorrelatedStatement extends Statement where
  itemId : String
  value : String

structure DistinctValueStatement extends Statement where
  value : String

structure GroupedValueStatement extends Statement where
  value : String
  count : String

namespace Collection

/-- The tables of a collection with its predicate, before its outputs. -/
structure Frame where
  plan : JoinPlan
  base : Nat
  anchor : Sql.Column
  value : Sql.Column
  statement : Statement

/-- The tables that hold the values, and the column of these. -/
def addRows (naming : Naming) (target : Attribute) (p : JoinPlan) :
    Except QueryError (Nat × ColumnRef × JoinPlan) :=
  match target.storage with
  | .oneToMany table =>
    let (base, p) := p.addBase (.collection target.path) table
    .ok (base, ⟨base, naming.valueColumn⟩, p)
  | .manyToMany junction values =>
    let (base, p) := p.addBase (.collection target.path) junction
    let (table, p) := p.ensureJoined (.collectionValues target.path) values .inner
      naming.valueIdColumn ⟨base, naming.valueIdColumn⟩
    .ok (base, ⟨table, naming.valueColumn⟩, p)
  | .inline _ =>
    .error (.unsupportedCardinality target.path target.cardinality .collectionStatement)
  | .manyToOne _ _ =>
    .error (.unsupportedCardinality target.path target.cardinality .collectionStatement)

def frame (schema : Schema) (predicate : Predicate) (target : Attribute)
    (necessary : List AspectId) (aliases : Aliases AliasKey) : Except QueryError Frame := do
  let (base, value, p) ← addRows schema.naming target { aliases }
  let anchor : ColumnRef := ⟨base, schema.naming.itemIdColumn⟩
  let (_, p) ← p.joinAspects schema .inner anchor [] necessary
  let p ← p.resolveAll schema .leftOuter anchor predicate.mentions
  let anchorColumn ← p.tables.qualify anchor
  return {
    plan := p
    base
    anchor := anchorColumn
    value := ← p.tables.qualify value
    statement := ← p.statement anchorColumn predicate }

/-- By item, and within an item by the order column where there is one. -/
def valueOrder (naming : Naming) (f : Frame) : Except QueryError (List Sql.OrderKey) :=
  match naming.valueOrderColumn with
  | none => return [{ column := f.anchor }]
  | some name => do
    return [{ column := f.anchor }, { column := ← f.plan.tables.qualify ⟨f.base, name⟩ }]

def correlated (schema : Schema) (predicate : Predicate) (target : Attribute)
    (necessary : List AspectId) (aliases : Aliases AliasKey) :
    Except QueryError (CorrelatedStatement × Aliases AliasKey) := do
  let f ← frame schema predicate target necessary aliases
  let (itemId, p) := f.plan.allot .itemId AliasKey.columnStem
  let (value, p) := p.allot .value AliasKey.columnStem
  let orderBy ← valueOrder schema.naming f
  return ({
    select := { f.statement.select with
      outputs := [JoinPlan.outputColumn f.anchor itemId, JoinPlan.outputColumn f.value value]
      orderBy }
    params := f.statement.params
    itemId, value }, p.aliases)

def distinct (schema : Schema) (predicate : Predicate) (target : Attribute)
    (necessary : List AspectId) (aliases : Aliases AliasKey) :
    Except QueryError (DistinctValueStatement × Aliases AliasKey) := do
  let f ← frame schema predicate target necessary aliases
  let (value, p) := f.plan.allot .value AliasKey.columnStem
  return ({
    select := { f.statement.select with
      distinct := true
      outputs := [JoinPlan.outputColumn f.value value]
      orderBy := [{ column := f.value }] }
    params := f.statement.params
    value }, p.aliases)

def grouped (schema : Schema) (predicate : Predicate) (target : Attribute)
    (necessary : List AspectId) (aliases : Aliases AliasKey) :
    Except QueryError (GroupedValueStatement × Aliases AliasKey) := do
  let f ← frame schema predicate target necessary aliases
  let (itemId, p) := f.plan.allot .itemId AliasKey.columnStem
  let (value, p) := p.allot .value AliasKey.columnStem
  let rows := { f.statement.select with
    distinct := true
    outputs := [JoinPlan.outputColumn f.anchor itemId, JoinPlan.outputColumn f.value value] }
  let (derived, p) := p.allot .derived AliasKey.tableStem
  let (count, p) := p.allot .count AliasKey.columnStem
  return ({
    select := countBy rows derived itemId count [value]
    params := f.statement.params
    value, count }, p.aliases)

end Collection

end AspectQuery
