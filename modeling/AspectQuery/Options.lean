import AspectQuery.Sql.Dialect
/-!
# Options of statements

What may differ between statements of one meaning: the dialect, and how many values a list in a
statement holds before it is split.
-/

set_option autoImplicit false

namespace AspectQuery

structure Options where
  dialect : Sql.Dialect := .sqlite
  maxInValues : Nat := 800
  deriving DecidableEq

namespace Options

def ofDocument? (conv : Document.Conventions) (d : Document) : Option Options := do
  let base : Options := {}
  match ← d.members? conv ["dialect", "max_in_values"] with
  | [dialect, maxInValues] =>
    return {
      dialect := ← Document.defaulted (Sql.Dialect.ofDocument? conv) base.dialect dialect
      maxInValues := ← Document.defaulted Document.natural? base.maxInValues maxInValues }
  | _ => none

def document (o : Options) : Document :=
  .record [("dialect", .text o.dialect.name), ("max_in_values", .integer o.maxInValues)]

/-- How many values a list holds; never none. -/
def chunkSize (o : Options) : Nat := max 1 o.maxInValues

end Options

/-- Cuts a list into pieces of a size, the last one perhaps shorter. `steps` bounds their number. -/
def chunksWithin {α : Type} (size : Nat) : Nat → List α → List (List α)
  | 0, _ => []
  | _ + 1, [] => []
  | steps + 1, x :: rest =>
    (x :: rest).take size :: chunksWithin size steps ((x :: rest).drop size)

/-- There are no more pieces than elements. -/
def Options.chunks {α : Type} (o : Options) (xs : List α) : List (List α) :=
  chunksWithin o.chunkSize xs.length xs

theorem flatten_chunksWithin {α : Type} (size : Nat) (hsize : 0 < size) (steps : Nat)
    (xs : List α) (h : xs.length ≤ steps) : (chunksWithin size steps xs).flatten = xs := by
  induction steps generalizing xs with
  | zero =>
    have : xs = [] := List.eq_nil_of_length_eq_zero (by omega)
    simp [chunksWithin, this]
  | succ steps ih =>
    cases xs with
    | nil => rfl
    | cons x rest =>
      have hlen : ((x :: rest).drop size).length ≤ steps := by
        simp only [List.length_drop, List.length_cons] at h ⊢
        omega
      simp only [chunksWithin, List.flatten_cons, ih _ hlen, List.take_append_drop]

theorem Options.flatten_chunks {α : Type} (o : Options) (xs : List α) :
    (o.chunks xs).flatten = xs :=
  flatten_chunksWithin _ (by unfold chunkSize; omega) _ _ (Nat.le_refl _)

end AspectQuery
