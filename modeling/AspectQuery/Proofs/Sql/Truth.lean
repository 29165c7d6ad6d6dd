import AspectQuery.Filter
/-!
# Three-valued truth

A condition on values holds, fails or is unknown, as a comparison with null is. Conjunction and
disjunction over lists agree with the binary ones in any grouping.
-/

set_option autoImplicit false

namespace AspectQuery

namespace Sql

inductive Truth where
  | fails
  | unknown
  | holds
  deriving DecidableEq

namespace Truth

def ofBool (b : Bool) : Truth := if b then .holds else .fails

def not : Truth → Truth
  | .fails => .holds
  | .unknown => .unknown
  | .holds => .fails

def and : Truth → Truth → Truth
  | .fails, _ => .fails
  | _, .fails => .fails
  | .holds, .holds => .holds
  | _, _ => .unknown

def or : Truth → Truth → Truth
  | .holds, _ => .holds
  | _, .holds => .holds
  | .fails, .fails => .fails
  | _, _ => .unknown

def all (ts : List Truth) : Truth := ts.foldr and .holds

def any (ts : List Truth) : Truth := ts.foldr or .fails

@[simp] theorem holds_and (t : Truth) : and .holds t = t := by cases t <;> rfl

@[simp] theorem and_holds (t : Truth) : and t .holds = t := by cases t <;> rfl

@[simp] theorem fails_or (t : Truth) : or .fails t = t := by cases t <;> rfl

@[simp] theorem or_fails (t : Truth) : or t .fails = t := by cases t <;> rfl

@[simp] theorem holds_or (t : Truth) : or .holds t = .holds := by cases t <;> rfl

@[simp] theorem or_holds (t : Truth) : or t .holds = .holds := by cases t <;> rfl

theorem and_assoc (s t u : Truth) : and (and s t) u = and s (and t u) := by
  cases s <;> cases t <;> cases u <;> rfl

theorem or_assoc (s t u : Truth) : or (or s t) u = or s (or t u) := by
  cases s <;> cases t <;> cases u <;> rfl

theorem and_eq_holds {t u : Truth} : and t u = .holds ↔ t = .holds ∧ u = .holds := by
  cases t <;> cases u <;> simp [and]

theorem ofBool_eq_holds {b : Bool} : ofBool b = .holds ↔ b = true := by
  cases b <;> simp [ofBool]

theorem not_ofBool (b : Bool) : not (ofBool b) = ofBool !b := by
  cases b <;> rfl

@[simp] theorem all_nil : all [] = .holds := rfl

@[simp] theorem any_nil : any [] = .fails := rfl

@[simp] theorem all_cons (t : Truth) (ts : List Truth) : all (t :: ts) = and t (all ts) := rfl

@[simp] theorem any_cons (t : Truth) (ts : List Truth) : any (t :: ts) = or t (any ts) := rfl

theorem any_append (ts us : List Truth) : any (ts ++ us) = or (any ts) (any us) := by
  induction ts with
  | nil => simp
  | cons t ts ih => simp [ih, or_assoc]

theorem any_flatten (tss : List (List Truth)) : any tss.flatten = any (tss.map any) := by
  induction tss with
  | nil => rfl
  | cons ts tss ih => simp [any_append, ih]

theorem any_eq_holds_of_mem {ts : List Truth} (h : .holds ∈ ts) : any ts = .holds := by
  induction ts with
  | nil => simp at h
  | cons t ts ih =>
    rcases List.mem_cons.mp h with rfl | h
    · simp
    · simp [ih h]

end Truth

end Sql

/-- The truth of a combination of no fewer than one condition. -/
def Connective.truth : Connective → List Sql.Truth → Sql.Truth
  | .and => Sql.Truth.all
  | .or => Sql.Truth.any

end AspectQuery
