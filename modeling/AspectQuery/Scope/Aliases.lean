/-!
# Aliases

A namespace gives every key an alias of its own: a stem with the first number that makes it new.
A key keeps the alias that it got first.
-/

set_option autoImplicit false

namespace AspectQuery

structure Aliases (κ : Type) where
  entries : List (κ × String) := []

namespace Aliases

variable {κ : Type} [DecidableEq κ]

def get? (a : Aliases κ) (key : κ) : Option String :=
  (a.entries.find? fun e => e.1 = key).map (·.2)

def size (a : Aliases κ) : Nat := a.entries.length

def isEmpty (a : Aliases κ) : Bool := a.entries.isEmpty

def used (a : Aliases κ) : List String := a.entries.map (·.2)

def numbered (stem : String) (n : Nat) : String := stem ++ n.repr

/-- The first number of a stem that is not in use. One more number than there are aliases is
enough to find it. -/
def fresh (used : List String) (stem : String) : String :=
  (((List.range (used.length + 1)).map (numbered stem)).find? fun c => c ∉ used).getD stem

/-- The alias of a key, given out now if it has none. -/
def allot (a : Aliases κ) (key : κ) (stem : String) : String × Aliases κ :=
  match a.get? key with
  | some aliasName => (aliasName, a)
  | none =>
    let aliasName := fresh a.used stem
    (aliasName, ⟨a.entries ++ [(key, aliasName)]⟩)

end Aliases

/-- What goes by an alias in a statement. Tables and attributes are known by their numbers. -/
inductive AliasKey where
  | table (id : Nat)
  | itemId
  | presence (table : Nat)
  | mention (index : Nat)
  | value
  | count
  | derived
  deriving DecidableEq

namespace AliasKey

def tableStem : String := "T"

def columnStem : String := "A"

end AliasKey

end AspectQuery
