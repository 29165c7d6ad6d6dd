/-!
# Values by name

A finite map whose entries stand in ascending order of their names, compared by code points.
-/

set_option autoImplicit false

namespace AspectQuery

structure ByName (α : Type) where
  entries : List (String × α) := []

namespace ByName

variable {α : Type}

/-- Replaces the value of a name by a function of it, or puts in a new one where it has none. -/
def alterEntries (name : String) (f : Option α → α) : List (String × α) → List (String × α)
  | [] => [(name, f none)]
  | e :: rest =>
    if name < e.1 then (name, f none) :: e :: rest
    else if name = e.1 then (name, f (some e.2)) :: rest
    else e :: alterEntries name f rest

def alter (m : ByName α) (name : String) (f : Option α → α) : ByName α :=
  ⟨alterEntries name f m.entries⟩

def set (m : ByName α) (name : String) (value : α) : ByName α := m.alter name fun _ => value

def get? (m : ByName α) (name : String) : Option α :=
  (m.entries.find? fun e => e.1 = name).map (·.2)

def contains (m : ByName α) (name : String) : Bool := (m.get? name).isSome

def names (m : ByName α) : List String := m.entries.map (·.1)

end ByName

/-- The names in ascending order, each once. -/
def sortedNames (names : List String) : List String :=
  (names.foldl (fun (m : ByName Unit) name => m.set name ()) {}).names

end AspectQuery
