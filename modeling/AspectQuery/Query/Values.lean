import AspectQuery.Query.Items
import AspectQuery.Query.Row
import AspectQuery.Transaction
/-!
# Value queries

A value query asks for the distinct values of one attribute over the items that meet a filter, or
for the number of items with each of these values. An item without the aspect of a bounded
attribute has no value of it, so that aspect is necessary.
-/

set_option autoImplicit false

namespace AspectQuery

structure ValueGroup where
  value : Value
  count : UInt64
  deriving DecidableEq

def ValueGroup.document (g : ValueGroup) : Document :=
  .record [("value", g.value.document), ("count", .integer g.count.toNat)]

structure ValueQuery where
  schema : Schema
  options : Options
  /-- All mentions of the query, where a mention is found by its number. -/
  mentions : Mentions
  subject : Mention
  necessary : List AspectId
  predicate : Predicate

namespace ValueQuery

def compile (schema : Schema) (options : Options) (path : AttributePath)
    (necessary : List AspectId) (filter : Option Filter) : Except QueryError ValueQuery := do
  let known ← schema.requireAll necessary
  let target ← schema.find path
  let (subject, ms) := ({} : Mentions).add target
  let (predicate, ms) ← Predicate.ofFilter? schema options filter ms
  return {
    schema, options, subject, predicate
    mentions := ms
    necessary := if target.bounded then addOnce known target.aspect else known }

def target (q : ValueQuery) : Attribute := q.subject.target

def primary (q : ValueQuery) : Primary := { necessary := q.necessary, select := [q.subject] }

/-- The alias of the attribute itself. -/
def valueAlias (q : ValueQuery) (attributes : List (Nat × String)) : Except QueryError String :=
  match attributes.lookup q.subject.index with
  | some aliasName => .ok aliasName
  | none => .error (.unresolvedAttribute q.target.path)

def distinctStatement (q : ValueQuery) : Except QueryError DistinctValueStatement := do
  if q.target.bounded then
    let (s, _) ← q.primary.distinct q.schema q.predicate {}
    return { s with value := ← q.valueAlias s.attributes }
  else
    let (s, _) ← Collection.distinct q.schema q.predicate q.target q.necessary {}
    return s

def groupedStatement (q : ValueQuery) : Except QueryError GroupedValueStatement := do
  if q.target.bounded then
    let (s, _) ← q.primary.grouped q.schema q.predicate {}
    return { s with value := ← q.valueAlias s.attributes }
  else
    let (s, _) ← Collection.grouped q.schema q.predicate q.target q.necessary {}
    return s

def explainDistinct (q : ValueQuery) : Except QueryError (List Explanation) := do
  let s ← q.distinctStatement
  return [⟨"distinct " ++ q.target.path.text, s.bound q.options.dialect⟩]

def explainGrouped (q : ValueQuery) : Except QueryError (List Explanation) := do
  let s ← q.groupedStatement
  return [⟨"grouped " ++ q.target.path.text, s.bound q.options.dialect⟩]

/-- A value and its count; the value is read first. -/
def readGroup (q : ValueQuery) (s : GroupedValueStatement) (row : Row) :
    Except QueryError ValueGroup := do
  let value ← row.attributeValue q.target s.value
  return ⟨value, ← row.count s.count⟩

section

variable {σ : Type}

def executeDistinct (q : ValueQuery) (store : Store σ) (s : σ) :
    Except QueryError (List Value) × σ :=
  match q.distinctStatement with
  | .error e => (.error e, s)
  | .ok statement =>
    match store.inTransaction (store.query (statement.bound q.options.dialect)) s with
    | (.error e, s) => (.error (.store e), s)
    | (.ok rows, s) => (rows.mapM fun r => r.attributeValue q.target statement.value, s)

def executeGrouped (q : ValueQuery) (store : Store σ) (s : σ) :
    Except QueryError (List ValueGroup) × σ :=
  match q.groupedStatement with
  | .error e => (.error e, s)
  | .ok statement =>
    match store.inTransaction (store.query (statement.bound q.options.dialect)) s with
    | (.error e, s) => (.error (.store e), s)
    | (.ok rows, s) => (rows.mapM (q.readGroup statement), s)

end

end ValueQuery

end AspectQuery
