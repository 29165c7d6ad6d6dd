import AspectQuery.Proofs.Predicate.Blank
import AspectQuery.Statement.Collection
import AspectQuery.Statement.Primary
/-!
# Statements of predicates that are alike

The values of a predicate become the parameters of its statement and nothing else. So predicates
that are alike have the same statement up to these, or fail in the same way.
-/

set_option autoImplicit false

namespace AspectQuery

section

variable {ε α β γ : Type}

theorem bind_eq_map_bind {x : Except ε α} {f g : α → Except ε β} {k : β → β}
    (h : ∀ a, f a = (g a).map k) : x >>= f = (x >>= g).map k := by
  cases x with
  | error e => rfl
  | ok a => exact h a

theorem map_bind_eq {x : Except ε α} {f g : α → Except ε γ} {k : α → α} {l : γ → γ}
    (h : ∀ a, f (k a) = (g a).map l) : x.map k >>= f = (x >>= g).map l := by
  cases x with
  | error e => rfl
  | ok a => exact h a

theorem mapM_eq_map_mapM {f g : α → Except ε β} {k : β → β} (h : ∀ a, f a = (g a).map k)
    (xs : List α) : xs.mapM f = (xs.mapM g).map (List.map k) := by
  induction xs with
  | nil => rfl
  | cons x xs ih =>
    rw [List.mapM_cons, List.mapM_cons, h x, ih]
    cases g x with
    | error e => rfl
    | ok y => cases xs.mapM g <;> rfl

end

/-- The statement with other parameters. -/
def Statement.withParams (s : Statement) (vs : List Value) : Statement := { s with params := vs }

section

variable {p p' : Predicate} (h : p.Alike p')

namespace JoinPlan

theorem segmentText_blank (plan : JoinPlan) (anchor : Sql.Column) (s : Segment) :
    plan.segmentText anchor s.blank = plan.segmentText anchor s := by
  cases s <;> rfl

include h

theorem bind_alike (plan : JoinPlan) (anchor : Sql.Column) : plan.bind anchor p' =
    (plan.bind anchor p).map fun b => { b with params := p'.params } := by
  have htexts : ∀ ss : List Segment, (ss.map Segment.blank).mapM (plan.segmentText anchor) =
      ss.mapM (plan.segmentText anchor) := by
    intro ss
    induction ss with
    | nil => rfl
    | cons s ss ih => rw [List.map_cons, List.mapM_cons, List.mapM_cons, segmentText_blank, ih]
  unfold bind
  rw [← htexts p'.segments, ← h.segments, htexts]
  cases p.segments.mapM (plan.segmentText anchor) <;> rfl

theorem statement_alike (plan : JoinPlan) (anchor : Sql.Column) :
    plan.statement anchor p' = (plan.statement anchor p).map fun s => s.withParams p'.params := by
  unfold statement
  rw [bind_alike h]
  exact map_bind_eq fun b => bind_eq_map_bind fun joins => rfl

end JoinPlan

namespace Primary

variable (q : Primary) (schema : Schema) (aliases : Aliases AliasKey)

include h

theorem frame_alike : q.frame schema p' aliases = (q.frame schema p aliases).map fun f =>
    { f with statement := f.statement.withParams p'.params } := by
  unfold frame
  rw [h.mentions]
  refine bind_eq_map_bind fun ⟨base, plan⟩ => ?_
  refine bind_eq_map_bind fun ⟨requested, plan⟩ => ?_
  refine bind_eq_map_bind fun ⟨requested, plan⟩ => ?_
  refine bind_eq_map_bind fun plan => ?_
  refine bind_eq_map_bind fun ⟨order, plan⟩ => ?_
  refine bind_eq_map_bind fun anchor => ?_
  rw [JoinPlan.statement_alike h]
  exact map_bind_eq fun s => rfl

theorem items_alike (dialect : Sql.Dialect) : q.items schema dialect p' aliases =
    (q.items schema dialect p aliases).map fun r =>
      ({ r.1 with params := p'.params }, r.2) := by
  unfold items
  rw [frame_alike h]
  refine map_bind_eq fun f => ?_
  exact bind_eq_map_bind fun _ => bind_eq_map_bind fun _ => rfl

theorem distinct_alike : q.distinct schema p' aliases =
    (q.distinct schema p aliases).map fun r => ({ r.1 with params := p'.params }, r.2) := by
  unfold distinct
  rw [frame_alike h]
  refine map_bind_eq fun f => ?_
  exact bind_eq_map_bind fun _ => bind_eq_map_bind fun _ => rfl

theorem grouped_alike : q.grouped schema p' aliases =
    (q.grouped schema p aliases).map fun r => ({ r.1 with params := p'.params }, r.2) := by
  unfold grouped
  rw [frame_alike h]
  refine map_bind_eq fun f => ?_
  exact bind_eq_map_bind fun _ => rfl

end Primary

namespace Collection

variable (schema : Schema) (target : Attribute) (necessary : List AspectId)
  (aliases : Aliases AliasKey)

include h

theorem frame_alike : frame schema p' target necessary aliases =
    (frame schema p target necessary aliases).map fun f =>
      { f with statement := f.statement.withParams p'.params } := by
  unfold frame
  rw [h.mentions]
  refine bind_eq_map_bind fun ⟨base, value, plan⟩ => ?_
  refine bind_eq_map_bind fun ⟨requested, plan⟩ => ?_
  refine bind_eq_map_bind fun plan => ?_
  refine bind_eq_map_bind fun anchor => ?_
  refine bind_eq_map_bind fun value => ?_
  rw [JoinPlan.statement_alike h]
  exact map_bind_eq fun s => rfl

theorem correlated_alike : correlated schema p' target necessary aliases =
    (correlated schema p target necessary aliases).map fun r =>
      ({ r.1 with params := p'.params }, r.2) := by
  unfold correlated
  rw [frame_alike h]
  exact map_bind_eq fun f => bind_eq_map_bind fun orderBy => rfl

theorem distinct_alike : distinct schema p' target necessary aliases =
    (distinct schema p target necessary aliases).map fun r =>
      ({ r.1 with params := p'.params }, r.2) := by
  unfold distinct
  rw [frame_alike h]
  exact map_bind_eq fun f => rfl

theorem grouped_alike : grouped schema p' target necessary aliases =
    (grouped schema p target necessary aliases).map fun r =>
      ({ r.1 with params := p'.params }, r.2) := by
  unfold grouped
  rw [frame_alike h]
  exact map_bind_eq fun f => rfl

end Collection

end

end AspectQuery
