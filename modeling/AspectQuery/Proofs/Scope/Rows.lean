import AspectQuery.Proofs.Scope.Tables
import AspectQuery.Proofs.Sql.Contents
/-!
# The rows of joined tables

Where each joined table has at most one row with the value that it is joined by, every row of the
base is kept once or left out. What is joined to it does not depend on the order of the joins.
-/

set_option autoImplicit false

namespace AspectQuery

open Sql (Contents Operators Record Scope joined)

namespace Sql

/-- The row with a value in a column, which is not null. -/
def Contents.row? (db : Contents) (table column : String) (v : Value) : Option Record :=
  if v = .null then none else (db table).find? fun r => r column = v

/-- No value stands in two rows of a column; null may. -/
def Contents.Unique (db : Contents) (table column : String) : Prop :=
  ∀ v, v ≠ .null → ((db table).filter fun r => r column = v).length ≤ 1

/-- By the values of a column, `=` finds the rows that have a value, and none for null. -/
def Contents.Exact (ops : Operators) (db : Contents) (table column : String) (v : Value) : Prop :=
  ∀ r ∈ db table, ops.relate .eq (r column) v = .holds ↔ r column = v ∧ v ≠ .null

/-- Equality of values is exact on every column. -/
theorem exact_equality (db : Contents) (table column : String) (v : Value) :
    db.Exact .equality table column v := by
  intro r _
  by_cases hv : v = .null
  · simp [Operators.equality, hv]
  · by_cases hr : r column = .null
    · simp [Operators.equality, hr, Ne.symm hv]
    · simp [Operators.equality, Truth.ofBool, hv, hr]

variable {ops : Operators} {db : Contents} {table column : String} {v : Value}

theorem unique_of_nodup (h : ((db table).map fun r => r column).Nodup) :
    db.Unique table column := by
  intro v _
  have hcount : ((db table).filter fun r => r column = v).length =
      ((db table).map fun r => r column).count v := by
    rw [List.count_eq_length_filter, List.filter_map, List.length_map]
    rfl
  rw [hcount]
  exact List.nodup_iff_count_le_one.mp h v

theorem filter_eq_of_exact (h : db.Exact ops table column v) :
    ((db table).filter fun r => ops.relate .eq (r column) v = .holds) =
      if v = .null then [] else (db table).filter fun r => r column = v := by
  have hiff : ∀ r ∈ db table, decide (ops.relate .eq (r column) v = .holds) =
      decide (r column = v ∧ v ≠ .null) := fun r hr => decide_eq_decide.mpr (h r hr)
  rw [List.filter_congr hiff]
  split
  · rename_i hnull
    simp [hnull]
  · rename_i hnull
    simp [hnull]

theorem filter_eq_row? (hexact : db.Exact ops table column v) (h : db.Unique table column) :
    ((db table).filter fun r => ops.relate .eq (r column) v = .holds) =
      (db.row? table column v).toList := by
  rw [filter_eq_of_exact hexact, Contents.row?]
  split
  · rfl
  · rename_i hnull
    have hle := h v hnull
    rw [← List.head?_filter]
    rcases hrows : (db table).filter fun r => r column = v with _ | ⟨r, _ | ⟨s, rest⟩⟩
    · rw [hrows]
      rfl
    · rw [hrows]
      rfl
    · simp [hrows] at hle

theorem row?_eq_some {r : Record} (h : db.row? table column v = some r) :
    r ∈ db table ∧ r column = v ∧ v ≠ .null := by
  unfold Contents.row? at h
  split at h
  · simp at h
  · rename_i hnull
    exact ⟨List.mem_of_find?_eq_some h, by simpa using List.find?_some h, hnull⟩

theorem row?_of_mem (h : db.Unique table column) {r : Record} (hr : r ∈ db table)
    (hnull : r column ≠ .null) : db.row? table column (r column) = some r := by
  have hle := h (r column) hnull
  have hmem : r ∈ (db table).filter fun s => s column = r column := by
    simp [hr]
  rw [Contents.row?, if_neg hnull, ← List.head?_filter]
  rcases hrows : (db table).filter fun s => s column = r column with _ | ⟨s, _ | ⟨_, _⟩⟩
  · simp [hrows] at hmem
  · rw [hrows, List.mem_singleton] at hmem
    rw [hrows, hmem]
    rfl
  · simp [hrows] at hle

/-- A join by a column without equal values gives one scope or none. -/
theorem Join.extend_eq (j : Join) {column : String} (σ : Scope)
    (hleft : j.left = ⟨j.aliasName, column⟩) (hright : j.right.qualifier ≠ j.aliasName)
    (hexact : db.Exact ops j.table column (σ.cell j.right)) (h : db.Unique j.table column) :
    j.extend ops db σ =
      if j.kind == .leftOuter || (db.row? j.table column (σ.cell j.right)).isSome then
        [(j.aliasName, (db.row? j.table column (σ.cell j.right)).getD .null) :: σ]
      else [] := by
  have hmatching : j.matching ops db σ =
      (db.row? j.table column (σ.cell j.right)).toList.map fun r => (j.aliasName, r) :: σ := by
    rw [matching, List.filter_map, ← filter_eq_row? hexact h]
    simp only [Function.comp_def, hleft, Scope.cell_cons_self, Scope.cell_cons_of_ne hright]
  unfold extend
  rw [hmatching]
  cases j.kind <;> cases db.row? j.table column (σ.cell j.right) <;> rfl

theorem lookup_of_mem {a : String} {r : Record} {σ : Scope} (hσ : (σ.map Prod.fst).Nodup)
    (h : (a, r) ∈ σ) : σ.lookup a = some r := by
  induction σ with
  | nil => simp at h
  | cons e σ ih =>
    obtain ⟨b, s⟩ := e
    simp only [List.map_cons, List.nodup_cons] at hσ
    rcases List.mem_cons.mp h with heq | h
    · obtain ⟨rfl, rfl⟩ := Prod.mk.inj heq
      exact List.lookup_cons_self
    · have hne : a ≠ b := by
        intro heq
        exact hσ.1 (heq ▸ List.mem_map_of_mem (f := Prod.fst) h)
      rw [List.lookup_cons, beq_false_of_ne hne]
      exact ih hσ.2 h

end Sql

namespace Tables

/-- The records of the instances under their aliases, the last one in front. -/
def scope (t : Tables) (records : Purpose → Record) : Scope :=
  (t.instances.map fun i => (i.aliasName, records i.purpose)).reverse

theorem cell_scope {t : Tables} (h : (t.instances.map TableInstance.aliasName).Nodup)
    {i : TableInstance} (hi : i ∈ t.instances) (records : Purpose → Record) (column : String) :
    (t.scope records).cell ⟨i.aliasName, column⟩ = records i.purpose column := by
  have hnodup : ((t.scope records).map Prod.fst).Nodup := by
    rw [scope, List.map_reverse, List.nodup_reverse, List.map_map]
    exact h
  have hmem : (i.aliasName, records i.purpose) ∈ t.scope records := by
    rw [scope, List.mem_reverse]
    exact List.mem_map_of_mem hi
  rw [Scope.cell, Sql.lookup_of_mem hnodup hmem]

/-- The joins keep a row of the base or leave it out, and put a record to each other instance. -/
def Yields (ops : Operators) (db : Contents) (t : Tables) (records : Purpose → Record)
    (kept : Bool) : Prop :=
  ∃ js base rest, t.instances = base :: rest ∧ t.joins = .ok js ∧
    joined ops db js [(base.aliasName, records base.purpose)] =
      if kept then [t.scope records] else []

/-- The tables with one more table that is joined to them. -/
def joinNew (t : Tables) (a : Aliases AliasKey) (purpose : Purpose) (name : String)
    (kind : Sql.JoinKind) (column : String) (target : ColumnRef) : Tables :=
  { instances := t.instances ++
      [⟨a.size, purpose, name, Aliases.fresh a.used AliasKey.tableStem⟩]
    edges := t.edges ++ [⟨kind, a.size, ⟨a.size, column⟩, target⟩] }

section

variable {ops : Operators} {db : Contents} {t : Tables} {a : Aliases AliasKey}
  {records : Purpose → Record} {kept : Bool} {purpose : Purpose} {name column : String}
  {kind : Sql.JoinKind} {target : ColumnRef}

theorem ensureJoined_of_none (h : a.Sound) (hnone : t.find? purpose = none) :
    t.ensureJoined a purpose name kind column target = (a.size,
      t.joinNew a purpose name kind column target,
      ⟨a.entries ++ [(.table a.size, Aliases.fresh a.used AliasKey.tableStem)]⟩) := by
  simp only [ensureJoined, hnone, add_eq h, joinNew]

theorem sound_joinNew (h : t.Sound a) (purpose : Purpose) (name : String) (kind : Sql.JoinKind)
    (column : String) (target : ColumnRef) : (t.joinNew a purpose name kind column target).Sound
    ⟨a.entries ++ [(.table a.size, Aliases.fresh a.used AliasKey.tableStem)]⟩ := by
  have hadd := sound_add h purpose name
  rw [add_eq h.aliases] at hadd
  exact ⟨hadd.aliases, hadd.ordered, hadd.lt, hadd.used, hadd.distinct⟩

theorem grows_joinNew (t : Tables) (a : Aliases AliasKey) (purpose : Purpose) (name : String)
    (kind : Sql.JoinKind) (column : String) (target : ColumnRef) :
    t.Grows (t.joinNew a purpose name kind column target) :=
  ⟨List.prefix_append _ _, List.prefix_append _ _⟩

theorem scope_joinNew (t : Tables) (a : Aliases AliasKey) (purpose : Purpose) (name : String)
    (kind : Sql.JoinKind) (column : String) (target : ColumnRef) (records : Purpose → Record) :
    (t.joinNew a purpose name kind column target).scope records =
      (Aliases.fresh a.used AliasKey.tableStem, records purpose) :: t.scope records := by
  simp [scope, joinNew]

theorem joins_joinNew (h : t.Sound a) {js : List Sql.Join} (hjoins : t.joins = .ok js)
    (purpose : Purpose) (name : String) (kind : Sql.JoinKind) (column : String)
    {i : TableInstance} (hi : i ∈ t.instances) (htarget : target.table = i.id) :
    (t.joinNew a purpose name kind column target).joins = .ok (js ++
      [⟨kind, name, Aliases.fresh a.used AliasKey.tableStem,
        ⟨Aliases.fresh a.used AliasKey.tableStem, column⟩, ⟨i.aliasName, target.column⟩⟩]) := by
  have hsound := sound_joinNew h purpose name kind column target
  have hgrows := grows_joinNew t a purpose name kind column target
  have hnew : ⟨a.size, purpose, name, Aliases.fresh a.used AliasKey.tableStem⟩ ∈
      (t.joinNew a purpose name kind column target).instances := by
    simp [joinNew]
  have htable := table_of_mem hsound.ordered hnew
  have hleft := qualify_of_mem hsound hnew column
  have hright := qualify_of_mem hsound (hgrows.mem hi) target.column
  rw [← htarget] at hright
  refine mapM_append_singleton (mapM_of_forall (fun _ _ => join_of_grows hsound hgrows) hjoins) ?_
  simp only [join, bind_eq_ok, pure_eq_ok]
  exact ⟨_, htable, _, hleft, _, hright, rfl⟩

/-- One more join puts its record to every row, or leaves out a row without one. -/
theorem Yields.joinNew (hy : t.Yields ops db records kept) (h : t.Sound a)
    (hunique : db.Unique name column) {i : TableInstance} (hi : i ∈ t.instances)
    (htarget : target.table = i.id)
    (hexact : db.Exact ops name column (records i.purpose target.column))
    (hrecord : records purpose =
      (db.row? name column (records i.purpose target.column)).getD .null) :
    (t.joinNew a purpose name kind column target).Yields ops db records
      (kept && (kind == .leftOuter ||
        (db.row? name column (records i.purpose target.column)).isSome)) := by
  obtain ⟨js, base, rest, hbase, hjoins, hjoined⟩ := hy
  have halias : i.aliasName ≠ Aliases.fresh a.used AliasKey.tableStem := by
    intro heq
    exact (Aliases.fresh_spec a.used AliasKey.tableStem).1 (heq ▸ h.used i hi)
  refine ⟨_, base, _, congrArg (· ++ _) hbase,
    joins_joinNew h hjoins purpose name kind column hi htarget, ?_⟩
  rw [Sql.joined_append_singleton, hjoined]
  cases kept with
  | false => simp
  | true =>
    have hcell := cell_scope h.distinct hi records target.column
    have hextend := Sql.Join.extend_eq ⟨kind, name,
      Aliases.fresh a.used AliasKey.tableStem, ⟨Aliases.fresh a.used AliasKey.tableStem, column⟩,
      ⟨i.aliasName, target.column⟩⟩ (t.scope records) rfl halias (hcell ▸ hexact) hunique
    rw [hcell] at hextend
    simp only [if_true, List.flatMap_cons, List.flatMap_nil, List.append_nil, Bool.true_and,
      hextend, ← hrecord, scope_joinNew]

end

end Tables

end AspectQuery
