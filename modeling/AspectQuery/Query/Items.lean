import AspectQuery.Query.Explanation
import AspectQuery.Request
import AspectQuery.Statement.Collection
import AspectQuery.Statement.Primary
/-!
# Item queries

A request is checked against a schema once. The query that comes of it has a primary statement for
the items and a statement for every selected collection, all with the same predicate.
-/

set_option autoImplicit false

namespace AspectQuery

structure ItemQuery where
  schema : Schema
  options : Options
  /-- All mentions of the request, where a mention is found by its number. -/
  mentions : Mentions
  necessary : List AspectId
  optional : List AspectId
  /-- The selected attributes that have one value for each item. -/
  main : List Mention
  collections : List Mention
  predicate : Predicate
  sort : List (Mention × Direction)
  limit : Option UInt64
  offset : Option UInt64

/-- Appends what is not yet there. -/
def addOnce (xs : List AspectId) (x : AspectId) : List AspectId :=
  if x ∈ xs then xs else xs ++ [x]

namespace Schema

/-- Known aspects, each once. -/
def requireAll (schema : Schema) (ids : List AspectId) : Except QueryError (List AspectId) :=
  ids.foldlM (fun known id => do
    let _ ← schema.require id
    return addOnce known id) []

end Schema

namespace Mentions

/-- Mentions attributes one after another. -/
def addAll (ms : Mentions) : List Attribute → List Mention × Mentions
  | [] => ([], ms)
  | target :: rest =>
    let (m, ms) := ms.add target
    let (added, ms) := ms.addAll rest
    (m :: added, ms)

end Mentions

namespace ItemQuery

/-- The optional aspects that are known and not necessary, each once. -/
def optionalAspects (schema : Schema) (necessary ids : List AspectId) : List AspectId :=
  ids.foldl (fun optional id =>
    if (schema.aspect? id).isNone ∨ id ∈ necessary then optional else addOnce optional id) []

/-- All attributes of aspects. -/
def allAttributes (schema : Schema) (ids : List AspectId) : List Attribute :=
  (ids.filterMap schema.aspect?).flatMap Aspect.attributes

/-- The selected attributes, with their aspects as further optional ones. Without a selection these
are all attributes of the requested aspects. -/
def selection (schema : Schema) (necessary optional : List AspectId)
    (select : List AttributePath) : Except QueryError (List Attribute × List AspectId) :=
  if select.isEmpty then return (allAttributes schema (necessary ++ optional), optional)
  else do
    let targets ← select.mapM schema.find
    let added := (targets.map Attribute.aspect).foldl
      (fun optional id => if id ∈ necessary then optional else addOnce optional id) optional
    return (targets, added)

def sortMentions (schema : Schema) (keys : List SortKey) (ms : Mentions) :
    Except QueryError (List (Mention × Direction) × Mentions) := do
  let targets ← keys.mapM fun k => schema.find k.path
  let (sorted, ms) := ms.addAll targets
  return (sorted.zip (keys.map SortKey.direction), ms)

def ofRequest (schema : Schema) (options : Options) (r : Request) :
    Except QueryError ItemQuery := do
  let necessary ← schema.requireAll r.necessary
  let known := optionalAspects schema necessary r.optional
  let (targets, optional) ← selection schema necessary known r.select
  let (selected, ms) := ({} : Mentions).addAll targets
  let (predicate, ms) ← Predicate.ofFilter? schema options r.filter ms
  let (sort, ms) ← sortMentions schema r.sort ms
  return {
    schema, options, necessary, optional, predicate, sort
    mentions := ms
    main := selected.filter fun m => m.target.bounded
    collections := selected.filter fun m => !m.target.bounded
    limit := r.limit
    offset := r.offset }

/-- The query for one item among those that it is about. -/
def only (q : ItemQuery) (id : ItemId) : ItemQuery :=
  { q with
    predicate := q.predicate.conjoin ⟨some (.itemIds (q.options.chunks [id]))⟩
    limit := none
    offset := none }

def primaryStatement (q : ItemQuery) : Except QueryError ItemStatement := do
  let request : Primary := {
    necessary := q.necessary
    optional := q.optional
    select := q.main
    sort := q.sort
    limit := q.limit
    offset := q.offset }
  return (← request.items q.schema q.options.dialect q.predicate {}).1

def collectionStatement (q : ItemQuery) (m : Mention) :
    Except QueryError CorrelatedStatement := do
  return (← Collection.correlated q.schema q.predicate m.target q.necessary {}).1

def collectionStatements (q : ItemQuery) : Except QueryError (List CorrelatedStatement) :=
  q.collections.mapM q.collectionStatement

def collectionLabel (m : Mention) : String := "collection " ++ m.target.path.text

def primaryLabel : String := "primary"

def explain (q : ItemQuery) : Except QueryError (List Explanation) := do
  let collections ← q.collectionStatements
  let primary ← q.primaryStatement
  return (q.collections.zip collections).map
      (fun (m, s) => ⟨collectionLabel m, s.bound q.options.dialect⟩) ++
    [⟨primaryLabel, primary.bound q.options.dialect⟩]

end ItemQuery

end AspectQuery
