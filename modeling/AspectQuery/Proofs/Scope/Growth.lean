import AspectQuery.Proofs.Scope.Rows
import AspectQuery.Statement
/-!
# Plans grow by joins

All that a plan does after its base is to join tables to tables that it has, and to note columns.
What holds of a plan and outlasts these two steps holds of all plans that come from it.
-/

set_option autoImplicit false

namespace AspectQuery.JoinPlan

/-- A later plan has the tables and columns of an earlier one. -/
structure Grows (p q : JoinPlan) : Prop where
  tables : p.tables.Grows q.tables
  columns : ∀ m c, p.column? m = some c → q.column? m = some c

/-- The plan has a table for a purpose under a number. -/
def Has (p : JoinPlan) (purpose : Purpose) (id : Nat) : Prop :=
  ∃ i ∈ p.tables.instances, i.id = id ∧ i.purpose = purpose

def Knows (p : JoinPlan) (id : Nat) : Prop := ∃ i ∈ p.tables.instances, i.id = id

/-- A plan that has come from another one step by step. -/
inductive Grown (p : JoinPlan) : JoinPlan → Prop
  | refl : Grown p p
  | join {q : JoinPlan} (h : Grown p q) (purpose : Purpose) (name : String) (kind : Sql.JoinKind)
    (column : String) (target : ColumnRef) (htarget : q.Knows target.table) :
    Grown p (q.ensureJoined purpose name kind column target).2
  | column {q : JoinPlan} (h : Grown p q) (m : Mention) (c : ColumnRef) :
    Grown p { q with columns := q.columns ++ [(m.index, c)] }

theorem Grows.refl (p : JoinPlan) : p.Grows p := ⟨.refl _, fun _ _ h => h⟩

theorem Grows.trans {p q r : JoinPlan} (h : p.Grows q) (h' : q.Grows r) : p.Grows r :=
  ⟨h.tables.trans h'.tables, fun m c hc => h'.columns m c (h.columns m c hc)⟩

section

variable {schema : Schema} {kind : Sql.JoinKind} {anchor : ColumnRef} {p q r : JoinPlan}
  {purpose : Purpose} {id : Nat}

theorem Has.mono (h : p.Grows q) (hp : p.Has purpose id) : q.Has purpose id := by
  obtain ⟨i, hi, hid, hpurpose⟩ := hp
  exact ⟨i, h.tables.mem hi, hid, hpurpose⟩

theorem Has.knows (h : p.Has purpose id) : p.Knows id := by
  obtain ⟨i, hi, hid, -⟩ := h
  exact ⟨i, hi, hid⟩

theorem Knows.mono (h : p.tables.Grows q.tables) (hp : p.Knows id) : q.Knows id := by
  obtain ⟨i, hi, hid⟩ := hp
  exact ⟨i, h.mem hi, hid⟩

theorem addBase_eq {aliases : Aliases AliasKey} (h : aliases.Sound) (purpose : Purpose)
    (name : String) : ({ aliases } : JoinPlan).addBase purpose name = (aliases.size,
      { tables := { instances :=
          [⟨aliases.size, purpose, name, Aliases.fresh aliases.used AliasKey.tableStem⟩] }
        aliases := ⟨aliases.entries ++ [(.table aliases.size,
          Aliases.fresh aliases.used AliasKey.tableStem)]⟩ }) := by
  simp [addBase, Tables.addBase, Tables.find?, Tables.add_eq h]

theorem sound_addBase {aliases : Aliases AliasKey} (h : aliases.Sound) (purpose : Purpose)
    (name : String) :
    let r := ({ aliases } : JoinPlan).addBase purpose name
    r.2.tables.Sound r.2.aliases ∧ r.2.Knows r.1 := by
  have hsound := Tables.sound_add (Tables.sound_empty h) purpose name
  rw [Tables.add_eq h] at hsound
  rw [addBase_eq h]
  exact ⟨hsound, _, List.mem_singleton_self _, rfl⟩

theorem ensureJoined_of_some (h : p.tables.find? purpose = some id) (name : String)
    (kind : Sql.JoinKind) (column : String) (target : ColumnRef) :
    p.ensureJoined purpose name kind column target = (id, p) := by
  simp only [ensureJoined, Tables.ensureJoined, h]

theorem ensureJoined_of_none (h : p.aliases.Sound) (hnone : p.tables.find? purpose = none)
    (name : String) (kind : Sql.JoinKind) (column : String) (target : ColumnRef) :
    p.ensureJoined purpose name kind column target = (p.aliases.size,
      { p with
        tables := p.tables.joinNew p.aliases purpose name kind column target
        aliases := ⟨p.aliases.entries ++ [(.table p.aliases.size,
          Aliases.fresh p.aliases.used AliasKey.tableStem)]⟩ }) := by
  simp only [ensureJoined, Tables.ensureJoined_of_none h hnone]

theorem grows_ensureJoined (p : JoinPlan) (purpose : Purpose) (name : String)
    (kind : Sql.JoinKind) (column : String) (target : ColumnRef) :
    let r := p.ensureJoined purpose name kind column target
    p.Grows r.2 ∧ r.2.Has purpose r.1 := by
  cases hfind : p.tables.find? purpose with
  | some id =>
    obtain ⟨i, hi, hpurpose, hid⟩ := Tables.find?_eq_some hfind
    rw [ensureJoined_of_some hfind]
    exact ⟨.refl p, i, hi, hid, hpurpose⟩
  | none =>
    simp only [ensureJoined, Tables.ensureJoined, hfind, Tables.add]
    exact ⟨⟨⟨List.prefix_append _ _, List.prefix_append _ _⟩, fun _ _ hc => hc⟩, _,
      List.mem_append_right _ (List.mem_singleton_self _), rfl, rfl⟩

theorem column?_append (m m' : Mention) (c : ColumnRef) :
    ({ p with columns := p.columns ++ [(m.index, c)] } : JoinPlan).column? m' =
      (p.column? m').or (if m'.index = m.index then some c else none) := by
  simp only [JoinPlan.column?, List.lookup_append, List.lookup_cons, List.lookup_nil]
  by_cases heq : m'.index = m.index
  · simp [heq]
  · simp [heq, beq_false_of_ne heq]

namespace Grown

theorem trans (h : p.Grown q) (h' : q.Grown r) : p.Grown r := by
  induction h' with
  | refl => exact h
  | join _ purpose name kind column target htarget ih => exact .join ih _ _ _ _ _ htarget
  | column _ m c ih => exact .column ih m c

theorem grows (h : p.Grown q) : p.Grows q := by
  induction h with
  | refl => exact .refl p
  | join _ purpose name kind column target htarget ih =>
    exact ih.trans (grows_ensureJoined _ purpose name kind column target).1
  | column _ m c ih =>
    refine ih.trans ⟨.refl _, fun m' c' hc' => ?_⟩
    rw [column?_append, hc', Option.some_or]

theorem knows (h : p.Grown q) (hid : p.Knows id) : q.Knows id := hid.mono h.grows.tables

theorem sound (h : p.Grown q) (hp : p.tables.Sound p.aliases) : q.tables.Sound q.aliases := by
  induction h with
  | refl => exact hp
  | @join q _ purpose name kind column target htarget ih =>
    cases hfind : q.tables.find? purpose with
    | some id =>
      rw [ensureJoined_of_some hfind]
      exact ih
    | none =>
      rw [ensureJoined_of_none ih.aliases hfind]
      exact Tables.sound_joinNew ih purpose name kind column target
  | column _ m c ih => exact ih

end Grown

theorem columns_joinAspect {id : AspectId} {n : Nat}
    (h : p.joinAspect schema kind anchor id = .ok (n, q)) : q.columns = p.columns := by
  simp only [JoinPlan.joinAspect, bind_eq_ok, pure_eq_ok] at h
  obtain ⟨a, -, heq⟩ := h
  exact congrArg (fun x => x.2.columns) heq.symm

theorem columns_locate {target : Attribute} {c : ColumnRef}
    (h : p.locate schema kind anchor target = .ok (c, q)) : q.columns = p.columns := by
  unfold JoinPlan.locate at h
  split at h
  · simp only [bind_eq_ok, pure_eq_ok, Prod.exists, Prod.mk.injEq] at h
    obtain ⟨_, _, hjoin, -, rfl⟩ := h
    exact columns_joinAspect hjoin
  · simp only [bind_eq_ok, pure_eq_ok, Prod.exists] at h
    obtain ⟨_, _, hjoin, heq⟩ := h
    exact (congrArg (fun x => x.2.columns) heq.symm).trans (columns_joinAspect hjoin)
  · simp at h
  · simp at h

section

variable (hanchor : p.Knows anchor.table)
include hanchor

theorem grown_joinAspect {id : AspectId} {n : Nat}
    (h : p.joinAspect schema kind anchor id = .ok (n, q)) : p.Grown q ∧ q.Has (.aspect id) n := by
  obtain ⟨a, -, h⟩ := bind_eq_ok.mp h
  have hhas := (grows_ensureJoined p (.aspect id) a.table kind schema.naming.itemIdColumn anchor).2
  have hgrown := Grown.refl.join (.aspect id) a.table kind schema.naming.itemIdColumn anchor hanchor
  rw [pure_eq_ok.mp h] at hhas hgrown
  exact ⟨hgrown, hhas⟩

theorem grown_locate {target : Attribute} {c : ColumnRef}
    (h : p.locate schema kind anchor target = .ok (c, q)) : p.Grown q := by
  unfold locate at h
  split at h
  · obtain ⟨⟨main, r⟩, hjoin, h⟩ := bind_eq_ok.mp h
    obtain ⟨-, rfl⟩ := Prod.mk.inj (pure_eq_ok.mp h)
    exact (grown_joinAspect hanchor hjoin).1
  · obtain ⟨⟨main, r⟩, hjoin, h⟩ := bind_eq_ok.mp h
    obtain ⟨-, rfl⟩ := Prod.mk.inj (pure_eq_ok.mp h)
    obtain ⟨hgrown, hmain⟩ := grown_joinAspect hanchor hjoin
    exact hgrown.join _ _ _ _ _ hmain.knows
  · simp at h
  · simp at h

theorem grown_resolve {m : Mention} {c : ColumnRef}
    (h : p.resolve schema kind anchor m = .ok (c, q)) : p.Grown q ∧ q.column? m = some c := by
  unfold resolve at h
  split at h
  · rename_i d hd
    obtain ⟨rfl, rfl⟩ := Prod.mk.inj (Except.ok.inj h)
    exact ⟨.refl, hd⟩
  · rename_i hnone
    obtain ⟨⟨d, r⟩, hlocate, h⟩ := bind_eq_ok.mp h
    obtain ⟨rfl, rfl⟩ := Prod.mk.inj (pure_eq_ok.mp h)
    refine ⟨(grown_locate hanchor hlocate).column m d, ?_⟩
    have hr : r.column? m = none := by rw [column?, columns_locate hlocate, ← column?, hnone]
    rw [column?_append, hr, Option.none_or, if_pos rfl]

theorem grown_resolveAll {ms : List Mention}
    (h : p.resolveAll schema kind anchor ms = .ok q) : p.Grown q := by
  refine foldlM_induct p.Grown (fun r m s _ hr hstep => ?_) h .refl
  obtain ⟨⟨c, s'⟩, hresolve, hstep⟩ := bind_eq_ok.mp hstep
  obtain rfl := pure_eq_ok.mp hstep
  exact hr.trans (grown_resolve (hr.knows hanchor) hresolve).1

theorem grown_joinAspects {requested all : List (AspectId × Nat)} {aspects : List AspectId}
    (h : p.joinAspects schema kind anchor requested aspects = .ok (all, q)) : p.Grown q := by
  refine foldlM_induct (fun r : List (AspectId × Nat) × JoinPlan => p.Grown r.2)
    (fun r a r' _ hr hstep => ?_) h .refl
  obtain ⟨⟨n, p'⟩, hjoin, hstep⟩ := bind_eq_ok.mp hstep
  obtain rfl := pure_eq_ok.mp hstep
  exact hr.trans (grown_joinAspect (hr.knows hanchor) hjoin).1

end

end

end AspectQuery.JoinPlan
