import AspectQuery.Error
import AspectQuery.Scope.Aliases
import AspectQuery.Sql.Select
/-!
# Tables of a statement

A statement has at most one instance of a table for each purpose. The first instance is the base;
every further one is joined to a column of an instance before it. Instances are numbered by the
namespace that their aliases come from, in ascending order.
-/

set_option autoImplicit false

namespace AspectQuery

/-- What a table is there for. -/
inductive Purpose where
  | items
  | aspect (id : AspectId)
  /-- The shared values of an attribute with one value for each item. -/
  | sharedValues (path : AttributePath)
  /-- The rows that tie items to the values of a collection. -/
  | collection (path : AttributePath)
  | collectionValues (path : AttributePath)
  deriving DecidableEq

structure TableInstance where
  id : Nat
  purpose : Purpose
  name : String
  aliasName : String
  deriving DecidableEq

structure ColumnRef where
  table : Nat
  column : String
  deriving DecidableEq

/-- A table joined by the equality of one of its columns to a column that is there. -/
structure JoinEdge where
  kind : Sql.JoinKind
  table : Nat
  left : ColumnRef
  right : ColumnRef
  deriving DecidableEq

structure Tables where
  instances : List TableInstance := []
  edges : List JoinEdge := []
  deriving DecidableEq

namespace Tables

def find? (t : Tables) (purpose : Purpose) : Option Nat :=
  (t.instances.find? fun i => i.purpose = purpose).map (·.id)

/-- Adds an instance whose number is the size of the namespace. -/
def add (t : Tables) (aliases : Aliases AliasKey) (purpose : Purpose) (name : String) :
    Nat × Tables × Aliases AliasKey :=
  let id := aliases.size
  let (aliasName, aliases) := aliases.allot (.table id) AliasKey.tableStem
  (id, { t with instances := t.instances ++ [⟨id, purpose, name, aliasName⟩] }, aliases)

/-- The base for a purpose, or the instance that is there for it. -/
def addBase (t : Tables) (aliases : Aliases AliasKey) (purpose : Purpose) (name : String) :
    Nat × Tables × Aliases AliasKey :=
  match t.find? purpose with
  | some id => (id, t, aliases)
  | none => t.add aliases purpose name

/-- Joins a table for a purpose, unless one is there for it. -/
def ensureJoined (t : Tables) (aliases : Aliases AliasKey) (purpose : Purpose) (name : String)
    (kind : Sql.JoinKind) (column : String) (target : ColumnRef) :
    Nat × Tables × Aliases AliasKey :=
  match t.find? purpose with
  | some id => (id, t, aliases)
  | none =>
    let (id, t, aliases) := t.add aliases purpose name
    (id, { t with edges := t.edges ++ [⟨kind, id, ⟨id, column⟩, target⟩] }, aliases)

/-- The place where a number stands among ascending numbers, by halving the `size` places from
`base` on. Each step leaves the places that may still hold it. -/
def bisect (ids : List Nat) (id : Nat) : Nat → Nat → Nat → Nat
  | 0, base, _ => base
  | steps + 1, base, size =>
    if size ≤ 1 then base
    else
      let half := size / 2
      let middle := base + half
      bisect ids id steps (if id < ids[middle]?.getD 0 then base else middle) (size - half)

/-- The instance of a number. -/
def table (t : Tables) (id : Nat) : Except QueryError TableInstance :=
  let size := t.instances.length
  match t.instances[bisect (t.instances.map (·.id)) id size 0 size]? with
  | some i => if i.id = id then .ok i else .error (.foreignTable id)
  | none => .error (.foreignTable id)

def qualify (t : Tables) (c : ColumnRef) : Except QueryError Sql.Column := do
  let i ← t.table c.table
  return ⟨i.aliasName, c.column⟩

/-- The base as the source of a statement. -/
def source (t : Tables) : Option (Sql.Source Sql.Select) :=
  t.instances.head?.map fun i => .table i.name i.aliasName

def join (t : Tables) (e : JoinEdge) : Except QueryError Sql.Join := do
  let i ← t.table e.table
  return ⟨e.kind, i.name, i.aliasName, ← t.qualify e.left, ← t.qualify e.right⟩

def joins (t : Tables) : Except QueryError (List Sql.Join) := t.edges.mapM t.join

end Tables

end AspectQuery
