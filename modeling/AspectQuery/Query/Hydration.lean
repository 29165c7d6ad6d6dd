import AspectQuery.MediaItem
import AspectQuery.Query.Items
import AspectQuery.Query.Row
import AspectQuery.Transaction
/-!
# From rows to items

Every item comes from the first of its rows of the primary statement: its aspects are those whose
presence is not null, its bounded attributes are the values of that row, and its collections are the
values of its rows of the statements of collections.
-/

set_option autoImplicit false

namespace AspectQuery

/-- The values of a collection, each with the item that has it. -/
abbrev ItemValues := List (ItemId × Value)

namespace ItemValues

def ofItem (vs : ItemValues) (id : ItemId) : List Value :=
  (vs.filter fun v => v.1 = id).map (·.2)

def ofRows (target : Attribute) (s : CorrelatedStatement) (rows : List Row) :
    Except QueryError ItemValues :=
  rows.mapM fun row => do
    let id ← row.itemId s.itemId
    return (id, ← row.attributeValue target s.value)

end ItemValues

namespace ItemQuery

/-- The values of all selected collections. -/
def collectValues : List Mention → List CorrelatedStatement → List (List Row) →
    Except QueryError (List (Mention × ItemValues))
  | m :: ms, s :: statements, rows :: results => do
    let values ← ItemValues.ofRows m.target s rows
    return (m, values) :: (← collectValues ms statements results)
  | _, _, _ => return []

def presentAspects (row : Row) (presence : List (AspectId × String)) (item : MediaItem) :
    Except QueryError MediaItem :=
  presence.foldlM (fun item (aspect, aliasName) => do
    let v ← row.cell aliasName
    return if v.isNull then item else { item with aspects := item.aspects.set aspect {} }) item

/-- The value of a bounded attribute, if the item has its aspect. -/
def loadMain (row : Row) (attributes : List (Nat × String)) (item : MediaItem) (m : Mention) :
    Except QueryError MediaItem :=
  if item.hasAspect m.target.aspect then
    match attributes.lookup m.index with
    | none => return item
    | some aliasName => do
      let v ← row.attributeValue m.target aliasName
      return item.setAttribute m.target.aspect m.target.name (.single v)
  else return item

def loadCollection (item : MediaItem) (m : Mention) (values : ItemValues) : MediaItem :=
  item.setAttribute m.target.aspect m.target.name (.collection (values.ofItem item.id))

def hydrateRow (s : ItemStatement) (main : List Mention) (values : List (Mention × ItemValues))
    (id : ItemId) (row : Row) : Except QueryError MediaItem := do
  let item ← presentAspects row s.presence { id }
  let item ← main.foldlM (loadMain row s.attributes) item
  return values.foldl (fun item (m, vs) => loadCollection item m vs) item

/-- The items of rows, where `seen` are the items of the rows before them. -/
def hydrateRows (s : ItemStatement) (main : List Mention) (values : List (Mention × ItemValues)) :
    List ItemId → List Row → Except QueryError (List MediaItem)
  | _, [] => return []
  | seen, row :: rest => do
    let id ← row.itemId s.itemId
    if id ∈ seen then hydrateRows s main values seen rest
    else do
      let item ← hydrateRow s main values id row
      return item :: (← hydrateRows s main values (id :: seen) rest)

/-- The items of the rows of all statements. -/
def hydrate (q : ItemQuery) (primary : ItemStatement) (collections : List CorrelatedStatement)
    (primaryRows : List Row) (collectionRows : List (List Row)) :
    Except QueryError (List MediaItem) := do
  let values ← collectValues q.collections collections collectionRows
  hydrateRows primary q.main values [] primaryRows

section

variable {σ : Type}

def runAll (store : Store σ) (bounds : List Bound) (primary : Bound) (s : σ) :
    Except StoreError (List (List Row) × List Row) × σ :=
  match store.queryAll bounds s with
  | (.error e, s) => (.error e, s)
  | (.ok collectionRows, s) =>
    match store.query primary s with
    | (.error e, s) => (.error e, s)
    | (.ok primaryRows, s) => (.ok (collectionRows, primaryRows), s)

/-- The items of the query. The statements are complete before the store is asked for anything. -/
def execute (q : ItemQuery) (store : Store σ) (s : σ) : Except QueryError (List MediaItem) × σ :=
  match q.collectionStatements, q.primaryStatement with
  | .error e, _ => (.error e, s)
  | .ok _, .error e => (.error e, s)
  | .ok collections, .ok primary =>
    let bounds := collections.map fun c => c.bound q.options.dialect
    match store.inTransaction (runAll store bounds (primary.bound q.options.dialect)) s with
    | (.error e, s) => (.error (.store e), s)
    | (.ok (collectionRows, primaryRows), s) =>
      (q.hydrate primary collections primaryRows collectionRows, s)

/-- One item of the query, if it is among its items. -/
def executeSingle (q : ItemQuery) (id : ItemId) (store : Store σ) (s : σ) :
    Except QueryError (Option MediaItem) × σ :=
  let q := q.only id
  match q.primaryStatement, q.collectionStatements with
  | .error e, _ => (.error e, s)
  | .ok _, .error e => (.error e, s)
  | .ok primary, .ok collections =>
    let bounds := collections.map fun c => c.bound q.options.dialect
    match store.inTransaction
      (store.queryAllIfAny (primary.bound q.options.dialect) bounds) s with
    | (.error e, s) => (.error (.store e), s)
    | (.ok none, s) => (.ok none, s)
    | (.ok (some (primaryRows, collectionRows)), s) =>
      ((q.hydrate primary collections primaryRows collectionRows).map List.head?, s)

end

end ItemQuery

end AspectQuery
