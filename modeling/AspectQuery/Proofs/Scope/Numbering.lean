import AspectQuery.Proofs.Scope.Growth
import AspectQuery.Proofs.Sql.Scoping
/-!
# The numbers of aliases

A namespace that has given out the first aliases of tables and the first aliases of columns gives
the next number to the next one. So the tables of a plan are numbered in the order of FROM and JOIN,
and each of them is joined to a table before it.
-/

set_option autoImplicit false

namespace AspectQuery

open AliasKey (tableStem columnStem)

namespace Aliases

theorem table_ne_column (m n : Nat) : numbered tableStem m ≠ numbered columnStem n := by
  intro h
  have hlist := congrArg (fun s => s.toList.head?) h
  simp [numbered, tableStem, columnStem] at hlist

/-- The aliases are the first ones of tables and the first ones of columns. -/
def Counts (a : Aliases AliasKey) (tables columns : Nat) : Prop :=
  ∀ s, s ∈ a.used ↔ (∃ n < tables, s = numbered tableStem n) ∨
    ∃ n < columns, s = numbered columnStem n

theorem counts_empty : ({} : Aliases AliasKey).Counts 0 0 := by
  intro s
  simp [used]

section

variable {a : Aliases AliasKey} {tables columns : Nat} {key : AliasKey}

namespace Counts

theorem fresh_table (h : a.Counts tables columns) :
    fresh a.used tableStem = numbered tableStem tables := by
  apply fresh_eq
  · intro m hm
    exact (h _).mpr (.inl ⟨m, hm, rfl⟩)
  · intro hmem
    rcases (h _).mp hmem with ⟨n, hn, heq⟩ | ⟨n, hn, heq⟩
    · exact absurd (numbered_injective tableStem heq) (Nat.ne_of_gt hn)
    · exact table_ne_column _ _ heq

theorem fresh_column (h : a.Counts tables columns) :
    fresh a.used columnStem = numbered columnStem columns := by
  apply fresh_eq
  · intro m hm
    exact (h _).mpr (.inr ⟨m, hm, rfl⟩)
  · intro hmem
    rcases (h _).mp hmem with ⟨n, hn, heq⟩ | ⟨n, hn, heq⟩
    · exact table_ne_column _ _ heq.symm
    · exact absurd (numbered_injective columnStem heq) (Nat.ne_of_gt hn)

theorem append_table (h : a.Counts tables columns) (key : AliasKey) :
    Counts ⟨a.entries ++ [(key, numbered tableStem tables)]⟩ (tables + 1) columns := by
  intro s
  have hused : used ⟨a.entries ++ [(key, numbered tableStem tables)]⟩ =
      a.used ++ [numbered tableStem tables] := by
    simp [used]
  rw [hused, List.mem_append, h s, List.mem_singleton, Nat.exists_lt_succ_right]
  exact or_right_comm

theorem append_column (h : a.Counts tables columns) (key : AliasKey) :
    Counts ⟨a.entries ++ [(key, numbered columnStem columns)]⟩ tables (columns + 1) := by
  intro s
  have hused : used ⟨a.entries ++ [(key, numbered columnStem columns)]⟩ =
      a.used ++ [numbered columnStem columns] := by
    simp [used]
  rw [hused, List.mem_append, h s, List.mem_singleton, Nat.exists_lt_succ_right]
  exact or_assoc

theorem allot_table (h : a.Counts tables columns) (hnew : a.get? key = none) :
    (a.allot key tableStem).1 = numbered tableStem tables ∧
      (a.allot key tableStem).2.Counts (tables + 1) columns := by
  rw [allot_of_none hnew, h.fresh_table]
  exact ⟨rfl, h.append_table key⟩

theorem allot_column (h : a.Counts tables columns) (hnew : a.get? key = none) :
    (a.allot key columnStem).1 = numbered columnStem columns ∧
      (a.allot key columnStem).2.Counts tables (columns + 1) := by
  rw [allot_of_none hnew, h.fresh_column]
  exact ⟨rfl, h.append_column key⟩

end Counts

end

end Aliases

open Aliases (numbered)

/-- The aliases of the tables in their order. -/
def Tables.names (t : Tables) : List String := t.instances.map TableInstance.aliasName

namespace JoinPlan

/-- The plan of a statement without outputs, in a namespace of its own. -/
structure Tidy (p : JoinPlan) : Prop where
  sound : p.tables.Sound p.aliases
  counts : p.aliases.Counts p.tables.instances.length 0
  keys : ∀ key, (∀ id, key ≠ .table id) → p.aliases.get? key = none
  names : p.tables.names = (List.range p.tables.instances.length).map (numbered tableStem)
  /-- Each table is joined by a column of its own to a column of a table before it. -/
  joined : ∃ js, p.tables.joins = .ok js ∧ js.map Sql.Join.aliasName = p.tables.names.tail ∧
    Sql.JoinsScoped (p.tables.names.take 1) js

section

variable {p q : JoinPlan}

theorem tidy_addBase (purpose : Purpose) (name : String) :
    let r := ({} : JoinPlan).addBase purpose name
    r.2.Tidy ∧ r.2.Knows r.1 := by
  intro r
  obtain ⟨hsound, hknows⟩ := sound_addBase Aliases.sound_empty purpose name
  have hcounts := Aliases.counts_empty.append_table (.table 0)
  refine ⟨⟨hsound, hcounts, fun key hkey => ?_, rfl, [], rfl, rfl, trivial⟩, hknows⟩
  exact (Aliases.get?_append {} (AliasKey.table 0) key _).trans (if_neg (hkey 0).symm)

theorem Tidy.get?_allot (h : p.Tidy) {key key' : AliasKey} (htable : ∀ id, key ≠ .table id)
    (hne : key' ≠ key) (stem : String) : (p.allot key' stem).2.aliases.get? key = none :=
  (Aliases.get?_allot_of_ne hne _ _).trans (h.keys key htable)

theorem names_joinNew (purpose : Purpose) (name : String) (kind : Sql.JoinKind) (column : String)
    (target : ColumnRef) : (p.tables.joinNew p.aliases purpose name kind column target).names =
      p.tables.names ++ [Aliases.fresh p.aliases.used tableStem] := by
  simp [Tables.names, Tables.joinNew]

/-- A new table is joined to one that is there. -/
theorem Tidy.joined_joinNew (h : p.Tidy) {target : ColumnRef} (htarget : p.Knows target.table)
    (purpose : Purpose) (name : String) (kind : Sql.JoinKind) (column : String) :
    let t := p.tables.joinNew p.aliases purpose name kind column target
    ∃ js, t.joins = .ok js ∧ js.map Sql.Join.aliasName = t.names.tail ∧
      Sql.JoinsScoped (t.names.take 1) js := by
  obtain ⟨i, hi, hid⟩ := htarget
  obtain ⟨js, hjs, haliases, hscoped⟩ := h.joined
  have hmem : i.aliasName ∈ p.tables.names := List.mem_map_of_mem hi
  have hne : p.tables.names ≠ [] := List.ne_nil_of_mem hmem
  have hsplit : p.tables.names.take 1 ++ js.map Sql.Join.aliasName = p.tables.names := by
    rw [haliases, ← List.drop_one, List.take_append_drop]
  refine ⟨_, Tables.joins_joinNew h.sound hjs purpose name kind column hi hid.symm, ?_, ?_⟩
  · rw [List.map_append, haliases, names_joinNew, List.tail_append_of_ne_nil hne]
    rfl
  · rw [names_joinNew, List.take_append_of_le_length (List.length_pos_iff.mpr hne)]
    refine Sql.joinsScoped_append hscoped ?_
    rw [hsplit]
    exact ⟨List.mem_append_right _ (List.mem_singleton_self _), List.mem_append_left _ hmem,
      trivial⟩

theorem Tidy.ensureJoined (h : p.Tidy) (purpose : Purpose) (name : String) (kind : Sql.JoinKind)
    (column : String) {target : ColumnRef} (htarget : p.Knows target.table) :
    (p.ensureJoined purpose name kind column target).2.Tidy := by
  cases hfind : p.tables.find? purpose with
  | some id =>
    rw [ensureJoined_of_some hfind]
    exact h
  | none =>
    have hfresh := h.counts.fresh_table
    have hlength : (p.tables.joinNew p.aliases purpose name kind column target).instances.length =
        p.tables.instances.length + 1 := by
      simp [Tables.joinNew]
    rw [ensureJoined_of_none h.sound.aliases hfind]
    refine ⟨?_, ?_, ?_, ?_, h.joined_joinNew htarget purpose name kind column⟩
    · exact Tables.sound_joinNew h.sound purpose name kind column target
    · rw [hlength, hfresh]
      exact h.counts.append_table _
    · intro key hkey
      rw [Aliases.get?_append, h.keys key hkey, Option.none_or, if_neg (hkey _).symm]
    · rw [names_joinNew, hlength, List.range_succ, List.map_append, ← h.names, hfresh]
      rfl

theorem Tidy.grown (h : p.Tidy) (hgrown : p.Grown q) : q.Tidy := by
  induction hgrown with
  | refl => exact h
  | join _ purpose name kind column target htarget ih =>
    exact ih.ensureJoined purpose name kind column htarget
  | column _ m c ih => exact ⟨ih.sound, ih.counts, ih.keys, ih.names, ih.joined⟩

end

end JoinPlan

end AspectQuery
