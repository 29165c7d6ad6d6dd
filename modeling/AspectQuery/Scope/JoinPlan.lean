import AspectQuery.Scope.Mentions
import AspectQuery.Scope.Tables
/-!
# Join plans

A plan grows by the tables that aspects and attributes need, and keeps the column in which the
value of each mention is found. Aspects are joined to the anchor, the column of item ids of the
base; shared values are joined to the main table of their aspect.
-/

set_option autoImplicit false

namespace AspectQuery

structure JoinPlan where
  aliases : Aliases AliasKey := {}
  tables : Tables := {}
  /-- The columns of the mentions by their numbers. -/
  columns : List (Nat × ColumnRef) := []

namespace JoinPlan

def addBase (p : JoinPlan) (purpose : Purpose) (name : String) : Nat × JoinPlan :=
  let (id, tables, aliases) := p.tables.addBase p.aliases purpose name
  (id, { p with tables, aliases })

def ensureJoined (p : JoinPlan) (purpose : Purpose) (name : String) (kind : Sql.JoinKind)
    (column : String) (target : ColumnRef) : Nat × JoinPlan :=
  let (id, tables, aliases) := p.tables.ensureJoined p.aliases purpose name kind column target
  (id, { p with tables, aliases })

def allot (p : JoinPlan) (key : AliasKey) (stem : String) : String × JoinPlan :=
  let (aliasName, aliases) := p.aliases.allot key stem
  (aliasName, { p with aliases })

def column? (p : JoinPlan) (m : Mention) : Option ColumnRef := p.columns.lookup m.index

/-- Joins the main table of an aspect. -/
def joinAspect (schema : Schema) (kind : Sql.JoinKind) (anchor : ColumnRef) (p : JoinPlan)
    (id : AspectId) : Except QueryError (Nat × JoinPlan) := do
  let aspect ← schema.require id
  return p.ensureJoined (.aspect id) aspect.table kind schema.naming.itemIdColumn anchor

/-- The column of an attribute, with the tables that it needs. -/
def locate (schema : Schema) (kind : Sql.JoinKind) (anchor : ColumnRef) (p : JoinPlan)
    (target : Attribute) : Except QueryError (ColumnRef × JoinPlan) :=
  match target.storage with
  | .inline column => do
    let (main, p) ← p.joinAspect schema kind anchor target.aspect
    return (⟨main, column⟩, p)
  | .manyToOne foreignKey valueTable => do
    let (main, p) ← p.joinAspect schema kind anchor target.aspect
    let (values, p) := p.ensureJoined (.sharedValues target.path) valueTable .leftOuter
      schema.naming.valueIdColumn ⟨main, foreignKey⟩
    return (⟨values, schema.naming.valueColumn⟩, p)
  | .oneToMany _ =>
    .error (.unsupportedCardinality target.path target.cardinality .attributeJoin)
  | .manyToMany _ _ =>
    .error (.unsupportedCardinality target.path target.cardinality .attributeJoin)

/-- The column of a mention, which stays the same from its first resolution on. -/
def resolve (schema : Schema) (kind : Sql.JoinKind) (anchor : ColumnRef) (p : JoinPlan)
    (m : Mention) : Except QueryError (ColumnRef × JoinPlan) :=
  match p.column? m with
  | some c => .ok (c, p)
  | none => do
    let (c, p) ← p.locate schema kind anchor m.target
    return (c, { p with columns := p.columns ++ [(m.index, c)] })

def resolveAll (schema : Schema) (kind : Sql.JoinKind) (anchor : ColumnRef) (p : JoinPlan)
    (ms : List Mention) : Except QueryError JoinPlan :=
  ms.foldlM (fun p m => do return (← p.resolve schema kind anchor m).2) p

end JoinPlan

end AspectQuery
