import AspectQuery.Statement
/-!
# The primary statement

The primary statement starts at the main table of the first necessary aspect, or at the table of
all items. Necessary aspects are joined strictly and all others loosely, so that only the necessary
aspects and the predicate decide which items there are. From these tables come a row for each item,
the distinct values of attributes, or the number of items for each of these.
-/

set_option autoImplicit false

namespace AspectQuery

structure Primary where
  necessary : List AspectId := []
  optional : List AspectId := []
  select : List Mention := []
  sort : List (Mention × Direction) := []
  limit : Option UInt64 := none
  offset : Option UInt64 := none

/-- A row for each item. -/
structure ItemStatement extends Statement where
  itemId : String
  /-- The output that is null where an item has not the aspect. -/
  presence : List (AspectId × String)
  attributes : List (Nat × String)

structure DistinctStatement extends Statement where
  attributes : List (Nat × String)

structure GroupedStatement extends Statement where
  attributes : List (Nat × String)
  count : String

namespace Primary

/-- The tables of a primary statement with its predicate, before its outputs. -/
structure Frame where
  plan : JoinPlan
  anchor : Sql.Column
  requested : List (AspectId × Nat)
  order : List Sql.OrderKey
  statement : Statement

def addBase (schema : Schema) (necessary : List AspectId) (p : JoinPlan) :
    Except QueryError (Nat × JoinPlan) :=
  match necessary with
  | first :: _ => do
    let aspect ← schema.require first
    return p.addBase (.aspect first) aspect.table
  | [] => return p.addBase .items schema.naming.itemTable

/-- The order by bounded attributes; others are passed over. -/
def resolveSort (schema : Schema) (anchor : ColumnRef) :
    List (Mention × Direction) → JoinPlan → Except QueryError (List Sql.OrderKey × JoinPlan)
  | [], p => .ok ([], p)
  | (m, direction) :: rest, p =>
    if m.target.bounded then do
      let (c, p) ← p.resolve schema .leftOuter anchor m
      let key : Sql.OrderKey := ⟨← p.tables.qualify c, some direction⟩
      let (keys, p) ← resolveSort schema anchor rest p
      return (key :: keys, p)
    else resolveSort schema anchor rest p

def frame (schema : Schema) (predicate : Predicate) (q : Primary) (aliases : Aliases AliasKey) :
    Except QueryError Frame := do
  let (base, p) ← addBase schema q.necessary { aliases }
  let anchor : ColumnRef := ⟨base, schema.naming.itemIdColumn⟩
  let (requested, p) ← p.joinAspects schema .inner anchor [] q.necessary
  let (requested, p) ← p.joinAspects schema .leftOuter anchor requested q.optional
  let p ← p.resolveAll schema .leftOuter anchor (q.select ++ predicate.mentions)
  let (order, p) ← resolveSort schema anchor q.sort p
  let anchorColumn ← p.tables.qualify anchor
  return {
    plan := p
    anchor := anchorColumn
    requested
    order
    statement := ← p.statement anchorColumn predicate }

/-- An output for each requested aspect, the column of item ids in its main table. -/
def outputPresence (column : String) : List (AspectId × Nat) → JoinPlan →
    Except QueryError (List Sql.Output × List (AspectId × String) × JoinPlan)
  | [], p => .ok ([], [], p)
  | (aspect, table) :: rest, p => do
    let (aliasName, p) := p.allot (.presence table) AliasKey.columnStem
    let c ← p.tables.qualify ⟨table, column⟩
    let (columns, presence, p) ← outputPresence column rest p
    return (JoinPlan.outputColumn c aliasName :: columns, (aspect, aliasName) :: presence, p)

/-- A page needs some order in certain dialects; the ids of the items give one. -/
def itemOrder (dialect : Sql.Dialect) (q : Primary) (anchor : Sql.Column)
    (order : List Sql.OrderKey) : List Sql.OrderKey :=
  if order.isEmpty && (q.limit.isSome || q.offset.isSome) && dialect.pageNeedsOrder then
    [{ column := anchor }]
  else order

def items (schema : Schema) (dialect : Sql.Dialect) (predicate : Predicate) (q : Primary)
    (aliases : Aliases AliasKey) : Except QueryError (ItemStatement × Aliases AliasKey) := do
  let f ← q.frame schema predicate aliases
  let (itemId, p) := f.plan.allot .itemId AliasKey.columnStem
  let (presenceColumns, presence, p) ← outputPresence schema.naming.itemIdColumn f.requested p
  let (columns, attributes, p) ← JoinPlan.outputAttributes q.select [] p
  return ({
    select := { f.statement.select with
      outputs := JoinPlan.outputColumn f.anchor itemId :: presenceColumns ++ columns
      orderBy := itemOrder dialect q f.anchor f.order
      limit := q.limit
      offset := q.offset }
    params := f.statement.params
    itemId, presence, attributes }, p.aliases)

/-- Orders by the columns of mentions behind an order, except for columns that are there. -/
def orderByAll (p : JoinPlan) (order : List Sql.OrderKey) (ms : List Mention) :
    Except QueryError (List Sql.OrderKey) :=
  ms.foldlM (fun order m =>
    match p.column? m with
    | none => return order
    | some c => do
      let column ← p.tables.qualify c
      return if order.any fun k => k.column = column then order
        else order ++ [{ column }]) order

def distinct (schema : Schema) (predicate : Predicate) (q : Primary)
    (aliases : Aliases AliasKey) : Except QueryError (DistinctStatement × Aliases AliasKey) := do
  let f ← q.frame schema predicate aliases
  let (outputs, attributes, p) ← JoinPlan.outputAttributes q.select [] f.plan
  let orderBy ← orderByAll p f.order q.select
  return ({
    select := { f.statement.select with distinct := true, outputs, orderBy }
    params := f.statement.params
    attributes }, p.aliases)

def grouped (schema : Schema) (predicate : Predicate) (q : Primary)
    (aliases : Aliases AliasKey) : Except QueryError (GroupedStatement × Aliases AliasKey) := do
  let f ← q.frame schema predicate aliases
  let (itemId, p) := f.plan.allot .itemId AliasKey.columnStem
  let (columns, attributes, p) ← JoinPlan.outputAttributes q.select [] p
  let rows := { f.statement.select with
    distinct := true
    outputs := JoinPlan.outputColumn f.anchor itemId :: columns }
  let (derived, p) := p.allot .derived AliasKey.tableStem
  let (count, p) := p.allot .count AliasKey.columnStem
  return ({
    select := countBy rows derived itemId count
      (q.select.filterMap fun m => attributes.lookup m.index)
    params := f.statement.params
    attributes, count }, p.aliases)

end Primary

end AspectQuery
