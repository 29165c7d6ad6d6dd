import AspectQuery.Proofs.Schema.Extension
import AspectQuery.Statement.Collection
import AspectQuery.Statement.Primary
/-!
# Statements over extended schemas

A statement uses a schema only to look up the main tables of its aspects and to name columns. So a
statement that can be written stays the same when the schema is extended.
-/

set_option autoImplicit false

namespace AspectQuery

section

variable {s t : Schema} (h : s.ExtendedTo t)

namespace JoinPlan

variable (kind : Sql.JoinKind) (anchor : ColumnRef) (p : JoinPlan)

include h

theorem joinAspect_kept (id : AspectId) :
    KeptBy (p.joinAspect s kind anchor id) (p.joinAspect t kind anchor id) := by
  refine h.require_bind fun a b htable => ?_
  rw [htable, h.naming]
  exact .refl _

theorem joinAspects_kept (requested : List (AspectId × Nat)) (ids : List AspectId) :
    KeptBy (p.joinAspects s kind anchor requested ids)
      (p.joinAspects t kind anchor requested ids) := by
  refine KeptBy.foldlM (fun ⟨requested, p⟩ id => ?_) ids (requested, p)
  exact (joinAspect_kept h kind anchor p id).bind_left

theorem locate_kept (target : Attribute) :
    KeptBy (p.locate s kind anchor target) (p.locate t kind anchor target) := by
  unfold locate
  split
  · exact (joinAspect_kept h kind anchor p target.aspect).bind_left
  · rw [h.naming]
    exact (joinAspect_kept h kind anchor p target.aspect).bind_left
  · exact .refl _
  · exact .refl _

theorem resolve_kept (m : Mention) :
    KeptBy (p.resolve s kind anchor m) (p.resolve t kind anchor m) := by
  unfold resolve
  split
  · exact .refl _
  · exact (locate_kept h kind anchor p m.target).bind_left

theorem resolveAll_kept (ms : List Mention) :
    KeptBy (p.resolveAll s kind anchor ms) (p.resolveAll t kind anchor ms) :=
  .foldlM (fun p m => (resolve_kept h kind anchor p m).bind_left) ms p

end JoinPlan

namespace Primary

section

variable (p : JoinPlan)

include h

theorem addBase_kept (necessary : List AspectId) :
    KeptBy (addBase s necessary p) (addBase t necessary p) := by
  cases necessary with
  | nil =>
    rw [addBase, addBase, h.naming]
    exact .refl _
  | cons first rest =>
    refine h.require_bind fun a b htable => ?_
    rw [htable]
    exact .refl _

theorem resolveSort_kept (anchor : ColumnRef) (keys : List (Mention × Direction)) :
    KeptBy (resolveSort s anchor keys p) (resolveSort t anchor keys p) := by
  induction keys generalizing p with
  | nil => exact .refl _
  | cons key rest ih =>
    obtain ⟨m, direction⟩ := key
    rw [resolveSort, resolveSort]
    split
    · exact (JoinPlan.resolve_kept h .leftOuter anchor p m).bind fun r =>
        (KeptBy.refl _).bind fun _ => (ih r.2).bind_left
    · exact ih p

end

variable (q : Primary) (predicate : Predicate) (aliases : Aliases AliasKey)

include h

theorem frame_kept : KeptBy (q.frame s predicate aliases) (q.frame t predicate aliases) := by
  unfold frame
  rw [h.naming]
  refine (addBase_kept h _ q.necessary).bind fun ⟨base, p⟩ => ?_
  refine (JoinPlan.joinAspects_kept h .inner _ p [] q.necessary).bind fun ⟨requested, p⟩ => ?_
  refine (JoinPlan.joinAspects_kept h .leftOuter _ p requested q.optional).bind fun ⟨_, p⟩ => ?_
  refine (JoinPlan.resolveAll_kept h .leftOuter _ p _).bind fun p => ?_
  exact (resolveSort_kept h p _ q.sort).bind_left

theorem items_kept (dialect : Sql.Dialect) :
    KeptBy (q.items s dialect predicate aliases) (q.items t dialect predicate aliases) := by
  unfold items
  rw [h.naming]
  exact (frame_kept h q predicate aliases).bind_left

theorem distinct_kept : KeptBy (q.distinct s predicate aliases) (q.distinct t predicate aliases) :=
  (frame_kept h q predicate aliases).bind_left

theorem grouped_kept : KeptBy (q.grouped s predicate aliases) (q.grouped t predicate aliases) :=
  (frame_kept h q predicate aliases).bind_left

end Primary

namespace Collection

variable (predicate : Predicate) (target : Attribute) (necessary : List AspectId)
  (aliases : Aliases AliasKey)

include h

theorem frame_kept : KeptBy (frame s predicate target necessary aliases)
    (frame t predicate target necessary aliases) := by
  unfold frame
  rw [h.naming]
  refine (KeptBy.refl _).bind fun ⟨base, value, p⟩ => ?_
  refine (JoinPlan.joinAspects_kept h .inner _ p [] necessary).bind fun ⟨_, p⟩ => ?_
  exact (JoinPlan.resolveAll_kept h .leftOuter _ p predicate.mentions).bind_left

theorem correlated_kept : KeptBy (correlated s predicate target necessary aliases)
    (correlated t predicate target necessary aliases) := by
  unfold correlated
  rw [h.naming]
  exact (frame_kept h predicate target necessary aliases).bind_left

theorem distinct_kept : KeptBy (distinct s predicate target necessary aliases)
    (distinct t predicate target necessary aliases) :=
  (frame_kept h predicate target necessary aliases).bind_left

theorem grouped_kept : KeptBy (grouped s predicate target necessary aliases)
    (grouped t predicate target necessary aliases) :=
  (frame_kept h predicate target necessary aliases).bind_left

end Collection

end

end AspectQuery
