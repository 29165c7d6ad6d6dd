import AspectQuery.Proofs.Predicate.Parameters
import AspectQuery.Proofs.Statement.Binding
/-!
# The places of values

The parts of a predicate refer to its values by their places, which are numbered from left to right.
Where two predicates are joined, the places of the second one are moved behind those of the first.
-/

set_option autoImplicit false

namespace AspectQuery

namespace Part

def place? : Part → Option Nat
  | .param place => some place
  | _ => none

/-- The part with its value by a number of places further on. -/
def shift (k : Nat) : Part → Part
  | .param place => .param (place + k)
  | part => part

end Part

namespace Segment

theorem number_append (n : Nat) (ss ts : List Segment) :
    number n (ss ++ ts) = number n ss ++ number (n + (params ss).length) ts := by
  induction ss generalizing n with
  | nil => rfl
  | cons s ss ih =>
    cases s with
    | value v =>
      simp only [List.cons_append, number, ih, params_value, List.length_cons]
      rw [show n + 1 + (params ss).length = n + ((params ss).length + 1) by omega]
    | _ => exact congrArg (_ :: ·) (ih n)

theorem number_add (n k : Nat) (ss : List Segment) :
    number (n + k) ss = (number n ss).map (Part.shift k) := by
  induction ss generalizing n with
  | nil => rfl
  | cons s ss ih =>
    cases s with
    | value v =>
      simp only [number, List.map_cons, Part.shift]
      rw [show n + k + 1 = n + 1 + k by omega, ih]
    | _ => exact congrArg (_ :: ·) (ih n)

/-- The places are all those from the first one on. -/
theorem places_number (n : Nat) (ss : List Segment) :
    (number n ss).filterMap Part.place? = List.range' n (params ss).length := by
  induction ss generalizing n with
  | nil => rfl
  | cons s ss ih =>
    cases s with
    | value v => exact congrArg (n :: ·) (ih (n + 1))
    | _ => exact ih n

end Segment

namespace Predicate

theorem places_parts (p : Predicate) :
    p.parts.filterMap Part.place? = List.range p.params.length := by
  rw [parts, Segment.places_number, List.range_eq_range', params]

theorem segments_conjoin (p q : Predicate) : (p.conjoin q).segments =
    if q.isUnrestricted then p.segments
    else if p.isUnrestricted then q.segments
    else .sql "(" :: p.segments ++ .sql Connective.and.sql :: q.segments ++ [.sql ")"] := by
  obtain ⟨_ | c⟩ := p <;> obtain ⟨_ | d⟩ := q <;>
    simp [conjoin, combine, segments, isUnrestricted, unrestricted, Condition.segments,
      Condition.segmentsOfAll, Segment.separated]

/-- Two predicates are joined by their parts, with the values of the second one moved behind those
of the first. -/
theorem parts_conjoin (p q : Predicate) : (p.conjoin q).parts =
    if q.isUnrestricted then p.parts
    else if p.isUnrestricted then q.parts
    else .sql "(" :: p.parts ++ .sql Connective.and.sql ::
      q.parts.map (Part.shift p.params.length) ++ [.sql ")"] := by
  rw [parts, segments_conjoin]
  split
  · rfl
  · split
    · rfl
    · simp only [List.cons_append, Segment.number, Segment.number_append, List.append_assoc, parts,
        params, Nat.zero_add]
      rw [← Segment.number_add, Nat.zero_add]

end Predicate

end AspectQuery
