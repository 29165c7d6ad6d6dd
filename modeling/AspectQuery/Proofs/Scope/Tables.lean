import AspectQuery.Proofs.Outcome
import AspectQuery.Proofs.Scope.Aliases
import AspectQuery.Scope.Tables
/-!
# Instances are found by their numbers

The numbers of instances ascend, so that halving finds the place of each. What was found is found
again after further instances were added.
-/

set_option autoImplicit false

namespace AspectQuery

namespace Tables

/-- The place lies among the `size` places from `base` on, and stays there with each step. -/
theorem bisect_eq {ids : List Nat} (hids : ids.Pairwise (· < ·)) {k : Nat} (hk : k < ids.length)
    (steps base size : Nat) (hsteps : size ≤ steps) (hbase : base ≤ k) (hlt : k < base + size)
    (hsize : base + size ≤ ids.length) : bisect ids ids[k] steps base size = k := by
  induction steps generalizing base size with
  | zero => omega
  | succ steps ih =>
    unfold bisect
    split
    · omega
    · rename_i hlarge
      have hmiddle : base + size / 2 < ids.length := by omega
      dsimp only
      rw [List.getElem?_eq_getElem hmiddle, Option.getD_some]
      split
      · rename_i hless
        have hbelow : k < base + size / 2 := by
          apply Nat.lt_of_not_le
          intro hle
          rcases Nat.lt_or_eq_of_le hle with hgt | heq
          · have := List.pairwise_iff_getElem.mp hids _ _ hmiddle hk hgt
            omega
          · simp only [heq] at hless
            omega
        exact ih base (size - size / 2) (by omega) hbase (by omega) (by omega)
      · rename_i hless
        have habove : base + size / 2 ≤ k := by
          apply Nat.le_of_not_lt
          intro hgt
          exact hless (List.pairwise_iff_getElem.mp hids _ _ hk hmiddle hgt)
        exact ih (base + size / 2) (size - size / 2) (by omega) habove (by omega) (by omega)

/-- The numbers and the aliases come from the namespace, and each is there once. -/
structure Sound (t : Tables) (a : Aliases AliasKey) : Prop where
  aliases : a.Sound
  ordered : (t.instances.map TableInstance.id).Pairwise (· < ·)
  lt : ∀ i ∈ t.instances, i.id < a.size
  used : ∀ i ∈ t.instances, i.aliasName ∈ a.used
  distinct : (t.instances.map TableInstance.aliasName).Nodup

variable {t t' : Tables} {a : Aliases AliasKey}

theorem mem_of_table {id : Nat} {i : TableInstance} (h : t.table id = .ok i) :
    i ∈ t.instances ∧ i.id = id := by
  unfold table at h
  dsimp only at h
  split at h
  · rename_i j hj
    split at h
    · rename_i hid
      obtain rfl := Except.ok.inj h
      exact ⟨List.mem_of_getElem? hj, hid⟩
    · simp at h
  · simp at h

theorem table_of_mem (hordered : (t.instances.map TableInstance.id).Pairwise (· < ·))
    {i : TableInstance} (hi : i ∈ t.instances) : t.table i.id = .ok i := by
  obtain ⟨k, hk, rfl⟩ := List.mem_iff_getElem.mp hi
  have hk' : k < (t.instances.map TableInstance.id).length := by simpa using hk
  have hplace := bisect_eq hordered hk' t.instances.length 0 t.instances.length (Nat.le_refl _)
    (Nat.zero_le k) (by omega) (by simp)
  rw [List.getElem_map] at hplace
  unfold table
  simp only [hplace, List.getElem?_eq_getElem hk, if_true]

theorem find?_eq_some {purpose : Purpose} {id : Nat} (h : t.find? purpose = some id) :
    ∃ i ∈ t.instances, i.purpose = purpose ∧ i.id = id := by
  obtain ⟨i, hi, rfl⟩ := Option.map_eq_some_iff.mp h
  exact ⟨i, List.mem_of_find?_eq_some hi, by simpa using List.find?_some hi, rfl⟩

/-- Only instances and edges behind those that are there are added. -/
structure Grows (t t' : Tables) : Prop where
  instances : t.instances <+: t'.instances
  edges : t.edges <+: t'.edges

theorem Grows.refl (t : Tables) : t.Grows t := ⟨List.prefix_refl _, List.prefix_refl _⟩

theorem Grows.trans {t'' : Tables} (h : t.Grows t') (h' : t'.Grows t'') : t.Grows t'' :=
  ⟨h.instances.trans h'.instances, h.edges.trans h'.edges⟩

theorem Grows.mem (h : t.Grows t') {i : TableInstance} (hi : i ∈ t.instances) :
    i ∈ t'.instances := h.instances.subset hi

section

variable (hsound : t'.Sound a) (hgrows : t.Grows t')
include hsound hgrows

theorem table_of_grows {id : Nat} {i : TableInstance} (h : t.table id = .ok i) :
    t'.table id = .ok i := by
  obtain ⟨hi, rfl⟩ := mem_of_table h
  exact table_of_mem hsound.ordered (hgrows.mem hi)

theorem qualify_of_grows {c : ColumnRef} {col : Sql.Column} (h : t.qualify c = .ok col) :
    t'.qualify c = .ok col := by
  simp only [qualify, bind_eq_ok, pure_eq_ok] at h ⊢
  obtain ⟨i, hi, rfl⟩ := h
  exact ⟨i, table_of_grows hsound hgrows hi, rfl⟩

theorem join_of_grows {e : JoinEdge} {j : Sql.Join} (h : t.join e = .ok j) :
    t'.join e = .ok j := by
  simp only [join, bind_eq_ok, pure_eq_ok] at h ⊢
  obtain ⟨i, hi, l, hl, r, hr, rfl⟩ := h
  exact ⟨i, table_of_grows hsound hgrows hi, l, qualify_of_grows hsound hgrows hl, r,
    qualify_of_grows hsound hgrows hr, rfl⟩

end

theorem qualify_of_mem (h : t.Sound a) {i : TableInstance} (hi : i ∈ t.instances)
    (column : String) : t.qualify ⟨i.id, column⟩ = .ok ⟨i.aliasName, column⟩ := by
  simp [qualify, table_of_mem h.ordered hi]

/-- The new instance has the size of the namespace as its number and an alias of its own. -/
theorem add_of_none (h : a.get? (.table a.size) = none) (t : Tables) (purpose : Purpose)
    (name : String) : t.add a purpose name = (a.size,
      { t with instances := t.instances ++
          [⟨a.size, purpose, name, Aliases.fresh a.used AliasKey.tableStem⟩] },
      ⟨a.entries ++ [(.table a.size, Aliases.fresh a.used AliasKey.tableStem)]⟩) := by
  simp only [add, Aliases.allot_of_none h]

theorem add_eq (h : a.Sound) (t : Tables) (purpose : Purpose) (name : String) :
    t.add a purpose name = (a.size,
      { t with instances := t.instances ++
          [⟨a.size, purpose, name, Aliases.fresh a.used AliasKey.tableStem⟩] },
      ⟨a.entries ++ [(.table a.size, Aliases.fresh a.used AliasKey.tableStem)]⟩) :=
  add_of_none (Aliases.get?_table_size h) t purpose name

theorem sound_add (h : t.Sound a) (purpose : Purpose) (name : String) :
    (t.add a purpose name).2.1.Sound (t.add a purpose name).2.2 := by
  have hnew := (Aliases.fresh_spec a.used AliasKey.tableStem).1
  have hused : Aliases.used ⟨a.entries ++
      [(AliasKey.table a.size, Aliases.fresh a.used AliasKey.tableStem)]⟩ =
      a.used ++ [Aliases.fresh a.used AliasKey.tableStem] := by
    simp [Aliases.used]
  have hsize : Aliases.size ⟨a.entries ++
      [(AliasKey.table a.size, Aliases.fresh a.used AliasKey.tableStem)]⟩ = a.size + 1 := by
    simp [Aliases.size]
  rw [add_eq h.aliases]
  refine ⟨?_, ?_, ?_, ?_, ?_⟩
  · exact Aliases.sound_append h.aliases (.inl rfl) fun id hid => by
      obtain rfl := AliasKey.table.inj hid
      exact Nat.le_refl _
  · rw [List.map_append, List.pairwise_append]
    refine ⟨h.ordered, by simp, ?_⟩
    intro id hid id' hid'
    obtain ⟨i, hi, rfl⟩ := List.mem_map.mp hid
    obtain rfl : id' = a.size := by simpa using hid'
    exact h.lt i hi
  · intro i hi
    rw [hsize]
    rcases List.mem_append.mp hi with hi | hi
    · have := h.lt i hi
      omega
    · rw [List.mem_singleton.mp hi]
      exact Nat.lt_succ_self _
  · intro i hi
    rw [hused]
    rcases List.mem_append.mp hi with hi | hi
    · exact List.mem_append_left _ (h.used i hi)
    · rw [List.mem_singleton.mp hi]
      simp
  · rw [List.map_append, List.nodup_append]
    refine ⟨h.distinct, by simp, ?_⟩
    rintro s hs _ hs' rfl
    obtain ⟨i, hi, rfl⟩ := List.mem_map.mp hs
    have heq : i.aliasName = Aliases.fresh a.used AliasKey.tableStem := by simpa using hs'
    exact hnew (heq ▸ h.used i hi)

theorem sound_empty (h : a.Sound) : ({} : Tables).Sound a :=
  ⟨h, by simp, by simp, by simp, by simp⟩

end Tables

end AspectQuery
