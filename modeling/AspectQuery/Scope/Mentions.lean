import AspectQuery.Schema
/-!
# Mentions of attributes

Each time a query names an attribute, the mention gets a number of its own, so that the statement
can tell two mentions of one attribute apart.
-/

set_option autoImplicit false

namespace AspectQuery

structure Mention where
  index : Nat
  target : Attribute
  deriving DecidableEq

/-- All mentions of a query; the number of a mention is its place. -/
structure Mentions where
  targets : List Attribute := []

namespace Mentions

def add (ms : Mentions) (target : Attribute) : Mention × Mentions :=
  (⟨ms.targets.length, target⟩, ⟨ms.targets ++ [target]⟩)

def size (ms : Mentions) : Nat := ms.targets.length

def get? (ms : Mentions) (index : Nat) : Option Mention :=
  ms.targets[index]?.map fun target => ⟨index, target⟩

/-- The mentions in their order. -/
def toList (ms : Mentions) : List Mention := ms.targets.mapIdx fun i target => ⟨i, target⟩

theorem get?_add_self (ms : Mentions) (target : Attribute) :
    (ms.add target).2.get? (ms.add target).1.index = some (ms.add target).1 := by
  simp [add, get?]

theorem size_add (ms : Mentions) (target : Attribute) :
    (ms.add target).2.size = ms.size + 1 := by
  simp [add, size]

end Mentions

end AspectQuery
