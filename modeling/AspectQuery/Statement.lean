import AspectQuery.Predicate
/-!
# Statements of a query

What the statements of a query have in common: the rows of a plan that meet a predicate, the columns
of selected attributes, and the count of the rows of another statement.
-/

set_option autoImplicit false

namespace AspectQuery

structure Statement where
  select : Sql.Select
  params : List Value

namespace Statement

def bound (s : Statement) (d : Sql.Dialect) : Bound := ⟨s.select.render d, s.params⟩

end Statement

namespace JoinPlan

/-- The statement over the tables of a plan, without any output. -/
def statement (p : JoinPlan) (anchor : Sql.Column) (predicate : Predicate) :
    Except QueryError Statement := do
  let bound ← p.bind anchor predicate
  return {
    select := {
      source := p.tables.source
      joins := ← p.tables.joins
      condition := if bound.sql.isEmpty then none else some bound.sql }
    params := bound.params }

def outputColumn (c : Sql.Column) (aliasName : String) : Sql.Output := ⟨.column c, some aliasName⟩

/-- An output for every mention that has none among `outputs`, which are known by number and
alias. A mention without a column is passed over. -/
def outputAttributes : List Mention → List (Nat × String) → JoinPlan →
    Except QueryError (List Sql.Output × List (Nat × String) × JoinPlan)
  | [], outputs, p => .ok ([], outputs, p)
  | m :: rest, outputs, p =>
    if (outputs.lookup m.index).isSome then outputAttributes rest outputs p
    else
      match p.column? m with
      | none => outputAttributes rest outputs p
      | some c => do
        let column ← p.tables.qualify c
        let (aliasName, p) := p.allot (.mention m.index) AliasKey.columnStem
        let (columns, outputs, p) ← outputAttributes rest (outputs ++ [(m.index, aliasName)]) p
        return (outputColumn column aliasName :: columns, outputs, p)

/-- Joins the main tables of aspects, and keeps those that are not yet among `requested`. -/
def joinAspects (schema : Schema) (kind : Sql.JoinKind) (anchor : ColumnRef) (p : JoinPlan)
    (requested : List (AspectId × Nat)) (aspects : List AspectId) :
    Except QueryError (List (AspectId × Nat) × JoinPlan) :=
  aspects.foldlM (fun (requested, p) aspect => do
    let (table, p) ← p.joinAspect schema kind anchor aspect
    return (if (requested.lookup aspect).isSome then requested
      else requested ++ [(aspect, table)], p)) (requested, p)

end JoinPlan

/-- Counts the rows of a statement by the values of some of its outputs, in their order. -/
def countBy (s : Sql.Select) (derived counted count : String) (outputs : List String) :
    Sql.Select :=
  let columns := outputs.map fun aliasName => (⟨derived, aliasName⟩ : Sql.Column)
  { outputs := ⟨.count ⟨derived, counted⟩, some count⟩ ::
      columns.map fun c => JoinPlan.outputColumn c c.name
    source := some (.derived s derived)
    groupBy := columns
    orderBy := columns.map fun c => { column := c } }

end AspectQuery
