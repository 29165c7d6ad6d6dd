import AspectQuery.Proofs.Scope.Rows
import Mathlib.Logic.Function.Basic
import Mathlib.Logic.Relation
/-!
# Statements that share a namespace

Any number of statements may take the numbers and the aliases of their tables from one namespace,
which gives out other aliases in between. The numbers ascend within each statement and none of
them is given out twice, so that what a statement was asked for once it always finds again.
-/

set_option autoImplicit false

namespace AspectQuery

namespace Tables

/-- How a table is asked for. -/
inductive Demand where
  | base
  | joined (kind : Sql.JoinKind) (column : String) (target : ColumnRef)

/-- The base is asked for first. No other table is asked for as the base. -/
def Demand.Allowed (t : Tables) (purpose : Purpose) : Demand → Prop
  | .base => ∀ i ∈ t.instances.head?, i.purpose = purpose
  | .joined _ _ _ => t.instances ≠ []

/-- The joins by which a new table becomes a part of the statement. -/
def Demand.edges (id : Nat) : Demand → List JoinEdge
  | .base => []
  | .joined kind column target => [⟨kind, id, ⟨id, column⟩, target⟩]

def demand (t : Tables) (a : Aliases AliasKey) (purpose : Purpose) (name : String) :
    Demand → Nat × Tables × Aliases AliasKey
  | .base => t.addBase a purpose name
  | .joined kind column target => t.ensureJoined a purpose name kind column target

def edgesOf (t : Tables) (id : Nat) : List JoinEdge := t.edges.filter fun e => e.table = id

/-- There is one table for a purpose. All but the first have one join each. -/
structure Linked (t : Tables) : Prop where
  purposes : (t.instances.map TableInstance.purpose).Nodup
  edges : t.edges.map JoinEdge.table = (t.instances.map TableInstance.id).tail
  left : ∀ e ∈ t.edges, e.left.table = e.table

/-- The new instance for a purpose. -/
def newInstance (a : Aliases AliasKey) (purpose : Purpose) (name : String) : TableInstance :=
  ⟨a.size, purpose, name, Aliases.fresh a.used AliasKey.tableStem⟩

def extend (t : Tables) (a : Aliases AliasKey) (purpose : Purpose) (name : String) (d : Demand) :
    Tables :=
  ⟨t.instances ++ [newInstance a purpose name], t.edges ++ d.edges a.size⟩

section

variable {t t' : Tables} {a : Aliases AliasKey} {purpose : Purpose} {d : Demand} {id : Nat}

theorem demand_of_some (h : t.find? purpose = some id) (a : Aliases AliasKey) (name : String)
    (d : Demand) : t.demand a purpose name d = (id, t, a) := by
  cases d <;> simp only [demand, addBase, ensureJoined, h]

theorem demand_of_none (ha : a.get? (.table a.size) = none) (h : t.find? purpose = none)
    (name : String) (d : Demand) : t.demand a purpose name d = (a.size,
      t.extend a purpose name d,
      ⟨a.entries ++ [(.table a.size, Aliases.fresh a.used AliasKey.tableStem)]⟩) := by
  cases d with
  | base => simp only [demand, addBase, h, add_of_none ha, extend, newInstance, Demand.edges,
      List.append_nil]
  | joined => simp only [demand, ensureJoined, h, add_of_none ha, extend, newInstance,
      Demand.edges]

theorem find?_of_mem (h : (t.instances.map TableInstance.purpose).Nodup) {i : TableInstance}
    (hi : i ∈ t.instances) : t.find? i.purpose = some i.id := by
  cases hfind : t.instances.find? fun j => j.purpose = i.purpose with
  | none => simpa using List.find?_eq_none.mp hfind i hi
  | some j =>
    have hpurpose : j.purpose = i.purpose := by simpa using List.find?_some hfind
    obtain rfl := List.inj_on_of_nodup_map h (List.mem_of_find?_eq_some hfind) hi hpurpose
    simp only [find?, hfind, Option.map_some]

theorem purpose_ne_of_find? (h : t.find? purpose = none) : ∀ i ∈ t.instances,
    i.purpose ≠ purpose := by
  simpa [find?] using h

theorem grows_extend (t : Tables) (a : Aliases AliasKey) (purpose : Purpose) (name : String)
    (d : Demand) : t.Grows (t.extend a purpose name d) :=
  ⟨List.prefix_append _ _, List.prefix_append _ _⟩

theorem linked_empty : ({} : Tables).Linked := ⟨by simp, rfl, by simp⟩

/-- A base that is new is the first table of its statement. -/
theorem instances_eq_nil (h : Demand.base.Allowed t purpose) (hnone : t.find? purpose = none) :
    t.instances = [] := by
  cases hinstances : t.instances with
  | nil => rfl
  | cons i rest =>
    have hpurpose := h i (by simp [hinstances])
    exact absurd hpurpose (purpose_ne_of_find? hnone i (by simp [hinstances]))

theorem Linked.extend (h : t.Linked) (hallowed : d.Allowed t purpose)
    (hnone : t.find? purpose = none) (a : Aliases AliasKey) (name : String) :
    (t.extend a purpose name d).Linked := by
  refine ⟨?_, ?_, ?_⟩
  · simp only [Tables.extend, List.map_append, List.map_cons, List.map_nil, newInstance]
    rw [List.nodup_append]
    refine ⟨h.purposes, List.nodup_singleton _, ?_⟩
    rintro _ hp _ hq rfl
    obtain ⟨i, hi, rfl⟩ := List.mem_map.mp hp
    exact purpose_ne_of_find? hnone i hi (List.mem_singleton.mp hq)
  · cases d with
    | base =>
      have hedges := h.edges
      rw [instances_eq_nil hallowed hnone] at hedges
      simp [Tables.extend, Demand.edges, instances_eq_nil hallowed hnone, hedges]
    | joined kind column target =>
      have hne : t.instances.map TableInstance.id ≠ [] := by
        simpa [Demand.Allowed] using hallowed
      simp only [Tables.extend, Demand.edges, List.map_append, List.map_cons, List.map_nil,
        newInstance, h.edges, List.tail_append_of_ne_nil hne]
  · intro e he
    rcases List.mem_append.mp he with he | he
    · exact h.left e he
    · cases d with
      | base => simp [Demand.edges] at he
      | joined kind column target =>
        obtain rfl := List.mem_singleton.mp he
        rfl

theorem filter_eq_singleton {es : List JoinEdge} (hes : (es.map JoinEdge.table).Nodup)
    {e : JoinEdge} (he : e ∈ es) : (es.filter fun e' => e'.table = e.table) = [e] := by
  induction es with
  | nil => simp at he
  | cons e' es ih =>
    obtain ⟨hnew, hes⟩ := List.nodup_cons.mp hes
    rcases List.mem_cons.mp he with rfl | he
    · rw [List.filter_cons_of_pos (by simp), List.filter_eq_nil_iff.mpr]
      intro e' he' heq
      exact hnew (List.mem_map.mpr ⟨e', he', by simpa using heq⟩)
    · rw [List.filter_cons_of_neg, ih hes he]
      intro heq
      exact hnew (List.mem_map.mpr ⟨e, he, (of_decide_eq_true heq).symm⟩)

theorem edgesOf_eq_singleton (hids : (t.instances.map TableInstance.id).Nodup) (h : t.Linked)
    {e : JoinEdge} (he : e ∈ t.edges) : t.edgesOf e.table = [e] := by
  refine filter_eq_singleton ?_ he
  rw [h.edges]
  exact hids.sublist (List.tail_sublist _)

/-- The first table is joined to nothing, and every other one once, by a column of its own. -/
theorem Linked.edgesOf (h : t.Linked) (hids : (t.instances.map TableInstance.id).Nodup)
    {base : TableInstance} {rest : List TableInstance} (hinstances : t.instances = base :: rest) :
    t.edgesOf base.id = [] ∧
      ∀ i ∈ rest, ∃ e, t.edgesOf i.id = [e] ∧ e.table = i.id ∧ e.left.table = i.id := by
  have hedges := h.edges
  rw [hinstances, List.map_cons, List.tail_cons] at hedges
  rw [hinstances, List.map_cons, List.nodup_cons] at hids
  constructor
  · refine List.filter_eq_nil_iff.mpr fun e he heq => hids.1 ?_
    rw [← of_decide_eq_true heq, ← hedges]
    exact List.mem_map_of_mem he
  · intro i hi
    have hmem : i.id ∈ t.edges.map JoinEdge.table := hedges ▸ List.mem_map_of_mem hi
    obtain ⟨e, he, htable⟩ := List.mem_map.mp hmem
    refine ⟨e, ?_, htable, htable ▸ h.left e he⟩
    rw [← htable]
    exact edgesOf_eq_singleton (by rwa [hinstances, List.map_cons, List.nodup_cons]) h he

/-- The joins of a table stay the same when others come. -/
theorem edgesOf_of_grows (h : t.Linked) (h' : t'.Linked) (hgrows : t.Grows t')
    (hids : (t'.instances.map TableInstance.id).Nodup) {i : TableInstance}
    (hi : i ∈ t.instances) : t'.edgesOf i.id = t.edgesOf i.id := by
  have hids' : (t.instances.map TableInstance.id).Nodup :=
    hids.sublist (hgrows.instances.map _).sublist
  obtain ⟨more, hmore⟩ := hgrows.instances
  cases hinstances : t.instances with
  | nil => simp [hinstances] at hi
  | cons base rest =>
    obtain ⟨hbase, hrest⟩ := h.edgesOf hids' hinstances
    obtain ⟨hbase', -⟩ := h'.edgesOf hids
      (show t'.instances = base :: (rest ++ more) by rw [← hmore, hinstances, List.cons_append])
    rw [hinstances] at hi
    rcases List.mem_cons.mp hi with rfl | hi
    · rw [hbase, hbase']
    · obtain ⟨e, he, htable, -⟩ := hrest i hi
      have hmem : e ∈ t.edges := List.mem_of_mem_filter (he ▸ List.mem_singleton_self e)
      rw [he, ← htable]
      exact edgesOf_eq_singleton hids h' (hgrows.edges.subset hmem)

end

end Tables

/-- Statements that take their numbers and aliases from one namespace. -/
structure Workspace where
  aliases : Aliases AliasKey := {}
  statements : Nat → Tables := fun _ => {}

namespace Workspace

open Tables (Demand)

/-- The table that a statement is asked for. -/
def demand (w : Workspace) (n : Nat) (purpose : Purpose) (name : String) (d : Demand) :
    Nat × Workspace :=
  let (id, t, aliases) := (w.statements n).demand w.aliases purpose name d
  (id, ⟨aliases, Function.update w.statements n t⟩)

def allot (w : Workspace) (key : AliasKey) (stem : String) : String × Workspace :=
  let (aliasName, aliases) := w.aliases.allot key stem
  (aliasName, { w with aliases })

/-- The numbers of tables so far. -/
def Issued (w : Workspace) (id : Nat) : Prop :=
  ∃ n, ∃ i ∈ (w.statements n).instances, i.id = id

/-- Any statement may be asked for a table next, and the namespace for any other alias. Keys of
tables are of those that there are. -/
inductive Step (w : Workspace) : Workspace → Prop
  | demand (n : Nat) (purpose : Purpose) (name : String) (d : Demand)
    (h : d.Allowed (w.statements n) purpose) : Step w (w.demand n purpose name d).2
  | allot (key : AliasKey) (stem : String)
    (h : ∀ id, key = .table id ∨ key = .presence id → w.Issued id) : Step w (w.allot key stem).2

def Reaches : Workspace → Workspace → Prop := Relation.ReflTransGen Step

/-- Numbers and aliases come from the namespace, and each of them was given out once. -/
structure Sound (w : Workspace) : Prop where
  nodup : w.aliases.used.Nodup
  issued : ∀ id s, w.aliases.get? (.table id) = some s → w.Issued id
  lt : ∀ n, ∀ i ∈ (w.statements n).instances, i.id < w.aliases.size
  named : ∀ n, ∀ i ∈ (w.statements n).instances,
    w.aliases.get? (.table i.id) = some i.aliasName
  ordered : ∀ n, ((w.statements n).instances.map TableInstance.id).Pairwise (· < ·)
  apart : ∀ n m, ∀ i ∈ (w.statements n).instances, ∀ j ∈ (w.statements m).instances,
    i.id = j.id → n = m
  linked : ∀ n, (w.statements n).Linked

theorem sound_empty : ({} : Workspace).Sound :=
  ⟨List.nodup_nil, by simp [Aliases.get?], by simp, by simp, by simp, by simp,
    fun _ => Tables.linked_empty⟩

variable {w v : Workspace} {n : Nat} {purpose : Purpose} {d : Demand}

theorem Sound.get?_table_size (h : w.Sound) : w.aliases.get? (.table w.aliases.size) = none := by
  cases hget : w.aliases.get? (.table w.aliases.size) with
  | none => rfl
  | some s =>
    obtain ⟨n, i, hi, hid⟩ := h.issued _ s hget
    exact absurd (h.lt n i hi) (by omega)

theorem demand_of_mem (h : w.Sound) {i : TableInstance} (hi : i ∈ (w.statements n).instances)
    (name : String) (d : Demand) : w.demand n i.purpose name d = (i.id, w) := by
  simp only [demand, Tables.demand_of_some (Tables.find?_of_mem (h.linked n).purposes hi),
    Function.update_eq_self]

/-- The workspace with a new table. -/
def extend (w : Workspace) (n : Nat) (purpose : Purpose) (name : String) (d : Demand) :
    Workspace :=
  ⟨⟨w.aliases.entries ++ [(.table w.aliases.size,
      Aliases.fresh w.aliases.used AliasKey.tableStem)]⟩,
    Function.update w.statements n ((w.statements n).extend w.aliases purpose name d)⟩

theorem demand_of_none (h : w.Sound) (hnone : (w.statements n).find? purpose = none)
    (name : String) (d : Demand) :
    w.demand n purpose name d = (w.aliases.size, w.extend n purpose name d) := by
  simp only [demand, Tables.demand_of_none h.get?_table_size hnone, extend]

theorem find?_cases (w : Workspace) (n : Nat) (purpose : Purpose) :
    (∃ i ∈ (w.statements n).instances, i.purpose = purpose) ∨
      (w.statements n).find? purpose = none := by
  cases hfind : (w.statements n).find? purpose with
  | none => exact .inr rfl
  | some id =>
    obtain ⟨i, hi, hpurpose, -⟩ := Tables.find?_eq_some hfind
    exact .inl ⟨i, hi, hpurpose⟩

theorem mem_extend {m : Nat} {name : String} {i : TableInstance} :
    i ∈ ((w.extend n purpose name d).statements m).instances ↔
      i ∈ (w.statements m).instances ∨
        m = n ∧ i = Tables.newInstance w.aliases purpose name := by
  by_cases hm : m = n
  · subst hm
    simp [extend, Tables.extend]
  · simp [extend, hm]

theorem Issued.extend {id : Nat} (h : w.Issued id) (n : Nat) (purpose : Purpose) (name : String)
    (d : Demand) : (w.extend n purpose name d).Issued id := by
  obtain ⟨m, i, hi, rfl⟩ := h
  exact ⟨m, i, mem_extend.mpr (.inl hi), rfl⟩

theorem Sound.extend (h : w.Sound) (hallowed : d.Allowed (w.statements n) purpose)
    (hnone : (w.statements n).find? purpose = none) (name : String) :
    (w.extend n purpose name d).Sound := by
  have hsize : (w.extend n purpose name d).aliases.size = w.aliases.size + 1 := by
    simp [Workspace.extend, Aliases.size]
  have hget : ∀ k, (w.extend n purpose name d).aliases.get? k = (w.aliases.get? k).or
      (if .table w.aliases.size = k then some (Aliases.fresh w.aliases.used AliasKey.tableStem)
        else none) :=
    fun k => Aliases.get?_append _ _ _ _
  refine ⟨Aliases.nodup_append_fresh h.nodup _ _, ?_, ?_, ?_, ?_, ?_, ?_⟩
  · intro id s hs
    rw [hget] at hs
    cases hold : w.aliases.get? (.table id) with
    | some s' => exact (h.issued id s' hold).extend _ _ _ _
    | none =>
      rw [hold, Option.none_or] at hs
      split at hs
      · rename_i hkey
        exact ⟨n, _, mem_extend.mpr (.inr ⟨rfl, rfl⟩), AliasKey.table.inj hkey⟩
      · simp at hs
  · intro m i hi
    rw [hsize]
    rcases mem_extend.mp hi with hi | ⟨-, rfl⟩
    · exact Nat.lt_succ_of_lt (h.lt m i hi)
    · exact Nat.lt_succ_self _
  · intro m i hi
    rw [hget]
    rcases mem_extend.mp hi with hi | ⟨-, rfl⟩
    · rw [h.named m i hi, Option.some_or]
    · rw [Tables.newInstance, h.get?_table_size, Option.none_or, if_pos rfl]
  · intro m
    by_cases hm : m = n
    · subst hm
      simp only [Workspace.extend, Function.update_self, Tables.extend, List.map_append]
      refine List.pairwise_append.mpr ⟨h.ordered m, List.pairwise_singleton _ _, ?_⟩
      rintro _ hid _ hnew
      obtain ⟨i, hi, rfl⟩ := List.mem_map.mp hid
      rw [List.mem_singleton.mp hnew]
      exact h.lt m i hi
    · simpa [Workspace.extend, hm] using h.ordered m
  · intro m k i hi j hj hid
    rcases mem_extend.mp hi with hi' | ⟨hm, rfl⟩ <;> rcases mem_extend.mp hj with hj' | ⟨hk, rfl⟩
    · exact h.apart m k i hi' j hj' hid
    · exact absurd (h.lt m i hi') (Nat.not_lt.mpr (Nat.le_of_eq hid.symm))
    · exact absurd (h.lt k j hj') (Nat.not_lt.mpr (Nat.le_of_eq hid))
    · rw [hm, hk]
  · intro m
    by_cases hm : m = n
    · subst hm
      simpa [Workspace.extend] using (h.linked m).extend hallowed hnone w.aliases name
    · simpa [Workspace.extend, hm] using h.linked m

/-- The other aliases take no number of a table away, since their keys are of no new table. -/
theorem Sound.allot (h : w.Sound) {key : AliasKey} {stem : String}
    (hkey : ∀ id, key = .table id ∨ key = .presence id → w.Issued id) :
    (w.allot key stem).2.Sound := by
  cases hget : w.aliases.get? key with
  | some s =>
    have heq : (w.allot key stem).2 = w := by
      simp only [Workspace.allot, Aliases.allot, hget]
    rwa [heq]
  | none =>
    have hkeeps := w.aliases.keeps_allot key stem
    have haliases : w.aliases.allot key stem = _ := Aliases.allot_of_none hget
    have hsize : (w.aliases.allot key stem).2.size = w.aliases.size + 1 := by
      simp [haliases, Aliases.size]
    refine ⟨?_, ?_, ?_, fun m i hi => hkeeps _ _ (h.named m i hi), h.ordered, h.apart, h.linked⟩
    · simp only [Workspace.allot, haliases]
      exact Aliases.nodup_append_fresh h.nodup key stem
    · intro id s hs
      simp only [Workspace.allot, haliases, Aliases.get?_append] at hs
      cases hold : w.aliases.get? (.table id) with
      | some s' => exact h.issued id s' hold
      | none =>
        rw [hold, Option.none_or] at hs
        split at hs
        · rename_i heq
          exact hkey id (.inl heq)
        · simp at hs
    · intro m i hi
      simp only [Workspace.allot, hsize]
      exact Nat.lt_succ_of_lt (h.lt m i hi)

theorem Sound.step (h : w.Sound) (hstep : Step w v) : v.Sound := by
  cases hstep with
  | demand n purpose name d hallowed =>
    rcases find?_cases w n purpose with ⟨i, hi, rfl⟩ | hnone
    · rwa [demand_of_mem h hi]
    · rw [demand_of_none h hnone]
      exact h.extend hallowed hnone name
  | allot key stem hkey => exact h.allot hkey

theorem Sound.reaches (h : w.Sound) (hreaches : Reaches w v) : v.Sound := by
  induction hreaches with
  | refl => exact h
  | tail _ hstep ih => exact ih.step hstep

theorem grows_step (h : w.Sound) (hstep : Step w v) (n : Nat) :
    (w.statements n).Grows (v.statements n) := by
  cases hstep with
  | demand m purpose name d hallowed =>
    rcases find?_cases w m purpose with ⟨i, hi, rfl⟩ | hnone
    · rw [demand_of_mem h hi]
      exact .refl _
    · rw [demand_of_none h hnone]
      by_cases hm : n = m
      · subst hm
        simpa [extend] using Tables.grows_extend _ _ _ _ _
      · simpa [extend, hm] using Tables.Grows.refl _
  | allot key stem hkey => exact .refl _

theorem grows_reaches (h : w.Sound) (hreaches : Reaches w v) (n : Nat) :
    (w.statements n).Grows (v.statements n) := by
  induction hreaches with
  | refl => exact .refl _
  | tail hreaches hstep ih => exact ih.trans (grows_step (h.reaches hreaches) hstep n)

/-- The tables of all statements at one point: the numbers ascend within a statement and find their
tables again; no purpose stands twice in a statement; each table but the first is joined once, by
a column of its own; and no number or alias stands twice at all. -/
structure Consistent (w : Workspace) : Prop where
  ascending : ∀ n, ((w.statements n).instances.map TableInstance.id).Pairwise (· < ·)
  found : ∀ n, ∀ i ∈ (w.statements n).instances, (w.statements n).table i.id = .ok i
  purposes : ∀ n, ((w.statements n).instances.map TableInstance.purpose).Nodup
  joined : ∀ n base rest, (w.statements n).instances = base :: rest →
    (w.statements n).edgesOf base.id = [] ∧ ∀ i ∈ rest, ∃ e,
      (w.statements n).edgesOf i.id = [e] ∧ e.table = i.id ∧ e.left.table = i.id
  different : ∀ n m, ∀ i ∈ (w.statements n).instances, ∀ j ∈ (w.statements m).instances,
    i.id = j.id ∨ i.aliasName = j.aliasName → n = m ∧ i = j

theorem Sound.consistent (h : w.Sound) : w.Consistent := by
  have hids : ∀ n, ((w.statements n).instances.map TableInstance.id).Nodup :=
    fun n => (h.ordered n).imp Nat.ne_of_lt
  refine ⟨h.ordered, fun n i hi => Tables.table_of_mem (h.ordered n) hi,
    fun n => (h.linked n).purposes, fun n _ _ => (h.linked n).edgesOf (hids n), ?_⟩
  intro n m i hi j hj heq
  have hid : i.id = j.id := by
    rcases heq with hid | halias
    · exact hid
    · have hj' := h.named m j hj
      rw [← halias] at hj'
      exact AliasKey.table.inj (Aliases.key_eq_of_get? h.nodup (h.named n i hi) hj')
  obtain rfl := h.apart n m i hi j hj hid
  exact ⟨rfl, List.inj_on_of_nodup_map (hids n) hi hj hid⟩

/-- A table that is asked for was there and nothing changes, or it is new, with a number above all
others and with the join that was asked for. From then on its number finds it, its joins stay as
they are, and to ask again for its purpose gives the same number and changes nothing. -/
def Settles (w : Workspace) (n : Nat) (purpose : Purpose) (name : String) (d : Demand) : Prop :=
  ∃ i : TableInstance, i.purpose = purpose ∧ (w.demand n purpose name d).1 = i.id ∧
    (i ∈ (w.statements n).instances ∧ (w.demand n purpose name d).2 = w ∨
      i.name = name ∧
      (∀ m, ∀ j ∈ (w.statements m).instances, j.id < i.id ∧ j.aliasName ≠ i.aliasName) ∧
      ((w.demand n purpose name d).2.statements n).edgesOf i.id = d.edges i.id) ∧
    ∀ v, Reaches (w.demand n purpose name d).2 v →
      (v.statements n).table i.id = .ok i ∧
      (v.statements n).edgesOf i.id =
        ((w.demand n purpose name d).2.statements n).edgesOf i.id ∧
      ∀ name' d', v.demand n purpose name' d' = (i.id, v)

theorem Sound.stays (h : w.Sound) {i : TableInstance} (hi : i ∈ (w.statements n).instances)
    (hreaches : Reaches w v) : (v.statements n).table i.id = .ok i ∧
      (v.statements n).edgesOf i.id = (w.statements n).edgesOf i.id ∧
      ∀ name d, v.demand n i.purpose name d = (i.id, v) := by
  have hv := h.reaches hreaches
  have hgrows := grows_reaches h hreaches n
  exact ⟨Tables.table_of_mem (hv.ordered n) (hgrows.mem hi),
    Tables.edgesOf_of_grows (h.linked n) (hv.linked n) hgrows ((hv.ordered n).imp Nat.ne_of_lt) hi,
    demand_of_mem hv (hgrows.mem hi)⟩

theorem Sound.ne_fresh (h : w.Sound) {i : TableInstance} (hi : i ∈ (w.statements n).instances) :
    i.aliasName ≠ Aliases.fresh w.aliases.used AliasKey.tableStem := by
  intro heq
  have hmem := List.mem_map_of_mem (f := Prod.snd) (Aliases.mem_used_of_get? (h.named n i hi))
  exact (Aliases.fresh_spec w.aliases.used AliasKey.tableStem).1 (heq ▸ hmem)

theorem Sound.edgesOf_extend (h : w.Sound) (n : Nat) (purpose : Purpose) (name : String)
    (d : Demand) : ((w.extend n purpose name d).statements n).edgesOf w.aliases.size =
      d.edges w.aliases.size := by
  have hold : (w.statements n).edgesOf w.aliases.size = [] := by
    refine List.filter_eq_nil_iff.mpr fun e he heq => ?_
    have hmem := List.mem_map_of_mem (f := JoinEdge.table) he
    rw [(h.linked n).edges] at hmem
    obtain ⟨i, hi, hid⟩ := List.mem_map.mp (List.mem_of_mem_tail hmem)
    exact absurd (h.lt n i hi) (by rw [hid, of_decide_eq_true heq]; exact Nat.lt_irrefl _)
  rw [Tables.edgesOf] at hold
  simp only [Workspace.extend, Function.update_self, Tables.extend, Tables.edgesOf,
    List.filter_append, hold, List.nil_append]
  cases d <;> simp [Demand.edges]

/-- Whatever was asked for in whatever order, the tables of all statements are consistent, and the
next table that is asked for stays what it is. -/
theorem bookkeeping (h : Reaches {} w) : w.Consistent ∧
    ∀ n purpose name d, d.Allowed (w.statements n) purpose → w.Settles n purpose name d := by
  have hsound := sound_empty.reaches h
  refine ⟨hsound.consistent, fun n purpose name d hallowed => ?_⟩
  rcases find?_cases w n purpose with ⟨i, hi, rfl⟩ | hnone
  · refine ⟨i, rfl, ?_⟩
    rw [demand_of_mem hsound hi]
    exact ⟨rfl, .inl ⟨hi, rfl⟩, fun v hv => hsound.stays hi hv⟩
  · have hext := hsound.extend hallowed hnone name
    have hi : Tables.newInstance w.aliases purpose name ∈
        ((w.extend n purpose name d).statements n).instances := mem_extend.mpr (.inr ⟨rfl, rfl⟩)
    refine ⟨Tables.newInstance w.aliases purpose name, rfl, ?_⟩
    rw [demand_of_none hsound hnone]
    refine ⟨rfl, .inr ⟨rfl, ?_, ?_⟩, fun v hv => hext.stays hi hv⟩
    · intro m j hj
      exact ⟨hsound.lt m j hj, hsound.ne_fresh hj⟩
    · exact hsound.edgesOf_extend n purpose name d

/-- Two statements with an aspect and a column in between. -/
def filmsAndGenres : Workspace :=
  let w := (({} : Workspace).demand 0 .items "MEDIA_ITEMS" .base).2
  let w := (w.demand 1 (.collection ⟨"film", "genre"⟩) "C_FILM_GENRE" .base).2
  let w := (w.allot .itemId AliasKey.columnStem).2
  let w := (w.demand 1 (.aspect "film") "M_FILM"
    (.joined .inner "MEDIA_ITEM_ID" ⟨1, "MEDIA_ITEM_ID"⟩)).2
  (w.allot (.presence 3) AliasKey.columnStem).2

theorem bookkeeping_filmsAndGenres : Reaches {} filmsAndGenres ∧
    Demand.base.Allowed (filmsAndGenres.statements 1) (.collection ⟨"film", "genre"⟩) ∧
    (Demand.joined .leftOuter "MEDIA_ITEM_ID" ⟨0, "MEDIA_ITEM_ID"⟩).Allowed
      (filmsAndGenres.statements 0) (.aspect "film") ∧
    filmsAndGenres.Consistent ∧
    filmsAndGenres.Settles 1 (.collection ⟨"film", "genre"⟩) "C_FILM_GENRE" .base ∧
    filmsAndGenres.Settles 0 (.aspect "film") "M_FILM"
      (.joined .leftOuter "MEDIA_ITEM_ID" ⟨0, "MEDIA_ITEM_ID"⟩) := by
  have hreaches : Reaches {} filmsAndGenres := by
    refine .tail (.tail (.tail (.tail (.tail .refl (.demand 0 _ _ .base ?_))
      (.demand 1 _ _ .base ?_)) (.allot .itemId _ ?_))
      (.demand 1 _ _ (.joined _ _ _) ?_)) (.allot (.presence 3) _ ?_)
    · simp [Demand.Allowed]
    · rintro i ⟨⟩
    · simp
    · exact List.cons_ne_nil _ _
    · rintro id (hid | hid)
      · simp at hid
      · obtain rfl := AliasKey.presence.inj hid
        exact ⟨1, _, List.mem_cons_of_mem _ List.mem_cons_self, rfl⟩
  have hbase : Demand.base.Allowed (filmsAndGenres.statements 1)
      (.collection ⟨"film", "genre"⟩) := by
    rintro i ⟨⟩
    rfl
  have hjoined : (Demand.joined .leftOuter "MEDIA_ITEM_ID" ⟨0, "MEDIA_ITEM_ID"⟩).Allowed
      (filmsAndGenres.statements 0) (.aspect "film") := List.cons_ne_nil _ _
  obtain ⟨hconsistent, hsettles⟩ := bookkeeping hreaches
  exact ⟨hreaches, hbase, hjoined, hconsistent, hsettles 1 _ _ _ hbase, hsettles 0 _ _ _ hjoined⟩

end Workspace

end AspectQuery
