import AspectQuery.ByName
import Mathlib.Data.List.Sort
/-!
# What maps by name hold

A map by name holds what was put in last under every name, in ascending order of the names. Sorted
names are those that were given, each once.
-/

set_option autoImplicit false

namespace AspectQuery

namespace ByName

variable {α : Type} {m : ByName α} {name : String} {value : α}

/-- The names stand in ascending order, so that each is there once. -/
def Ascending (m : ByName α) : Prop := m.names.Pairwise (· < ·)

theorem ascending_empty : ({} : ByName α).Ascending := List.Pairwise.nil

theorem get?_cons (e : String × α) (rest : List (String × α)) (name : String) :
    get? ⟨e :: rest⟩ name = if e.1 = name then some e.2 else get? ⟨rest⟩ name := by
  unfold get?
  by_cases h : e.1 = name <;> simp [h]

theorem mem_of_get? {other : String} (h : m.get? other = some value) :
    (other, value) ∈ m.entries := by
  obtain ⟨e, he, rfl⟩ := Option.map_eq_some_iff.mp h
  have hname : e.1 = other := by simpa using List.find?_some he
  exact hname ▸ List.mem_of_find?_eq_some he

theorem get?_eq_none (h : name ∉ m.names) : m.get? name = none := by
  refine Option.eq_none_iff_forall_not_mem.mpr fun value hvalue => h ?_
  exact List.mem_map_of_mem (mem_of_get? hvalue)

section Alter

variable {f : Option α → α} {other : String}

theorem mem_alter {e : String × α} (h : e ∈ (m.alter name f).entries) :
    (e.1 = name ∧ ∃ o, e.2 = f o) ∨ e ∈ m.entries := by
  obtain ⟨entries⟩ := m
  change e ∈ alterEntries name f entries at h
  change _ ∨ e ∈ entries
  fun_induction alterEntries name f entries with
  | case1 =>
    obtain rfl := List.mem_singleton.mp h
    exact .inl ⟨rfl, none, rfl⟩
  | case2 d rest hlt =>
    rcases List.mem_cons.mp h with rfl | h
    · exact .inl ⟨rfl, none, rfl⟩
    · exact .inr h
  | case3 d rest hlt hname =>
    rcases List.mem_cons.mp h with rfl | h
    · exact .inl ⟨rfl, some d.2, rfl⟩
    · exact .inr (List.mem_cons_of_mem d h)
  | case4 d rest hlt hname ih =>
    rcases List.mem_cons.mp h with rfl | h
    · exact .inr List.mem_cons_self
    · exact (ih h).imp_right (List.mem_cons_of_mem d)

theorem mem_names_alter (h : other ∈ (m.alter name f).names) :
    other = name ∨ other ∈ m.names := by
  obtain ⟨e, he, rfl⟩ := List.mem_map.mp h
  rcases mem_alter he with ⟨hname, -⟩ | he
  · exact .inl hname
  · exact .inr (List.mem_map_of_mem he)

theorem get?_alter_of_ne (h : other ≠ name) : (m.alter name f).get? other = m.get? other := by
  obtain ⟨entries⟩ := m
  change get? ⟨alterEntries name f entries⟩ other = get? ⟨entries⟩ other
  fun_induction alterEntries name f entries with
  | case1 => rw [get?_cons, if_neg h.symm]
  | case2 => rw [get?_cons, if_neg h.symm]
  | case3 d rest hlt hname => rw [get?_cons, get?_cons, if_neg h.symm, if_neg (hname ▸ h.symm)]
  | case4 d rest hlt hname ih => rw [get?_cons, get?_cons, ih]

theorem exists_get?_alter (m : ByName α) (name : String) (f : Option α → α) :
    ∃ o, (m.alter name f).get? name = some (f o) := by
  obtain ⟨entries⟩ := m
  change ∃ o, get? ⟨alterEntries name f entries⟩ name = some (f o)
  fun_induction alterEntries name f entries with
  | case1 => exact ⟨none, by rw [get?_cons, if_pos rfl]⟩
  | case2 => exact ⟨none, by rw [get?_cons, if_pos rfl]⟩
  | case3 d rest hlt hname => exact ⟨some d.2, by rw [get?_cons, if_pos rfl]⟩
  | case4 d rest hlt hname ih => rwa [get?_cons, if_neg (Ne.symm hname)]

theorem get?_alter_self (h : m.Ascending) :
    (m.alter name f).get? name = some (f (m.get? name)) := by
  obtain ⟨entries⟩ := m
  change get? ⟨alterEntries name f entries⟩ name = some (f (get? ⟨entries⟩ name))
  fun_induction alterEntries name f entries with
  | case1 => rw [get?_cons, if_pos rfl, get?_eq_none (List.not_mem_nil)]
  | case2 d rest hlt =>
    -- All names stand behind the one that is put in.
    have hnone : name ∉ names ⟨d :: rest⟩ := by
      intro hmem
      rcases List.mem_cons.mp hmem with rfl | hmem
      · exact String.lt_irrefl _ hlt
      · exact String.lt_irrefl _ (String.lt_trans hlt ((List.pairwise_cons.mp h).1 name hmem))
    rw [get?_cons, if_pos rfl, get?_eq_none hnone]
  | case3 d rest hlt hname => rw [get?_cons, get?_cons, if_pos rfl, if_pos hname.symm]
  | case4 d rest hlt hname ih =>
    rw [get?_cons, get?_cons, if_neg (Ne.symm hname), if_neg (Ne.symm hname),
      ih (List.pairwise_cons.mp h).2]

theorem ascending_alter (h : m.Ascending) : (m.alter name f).Ascending := by
  obtain ⟨entries⟩ := m
  change (names ⟨alterEntries name f entries⟩).Pairwise (· < ·)
  fun_induction alterEntries name f entries with
  | case1 => exact List.pairwise_singleton _ _
  | case2 d rest hlt =>
    refine List.pairwise_cons.mpr ⟨fun other hother => ?_, h⟩
    rcases List.mem_cons.mp hother with rfl | hother
    · exact hlt
    · exact String.lt_trans hlt ((List.pairwise_cons.mp h).1 other hother)
  | case3 d rest hlt hname =>
    obtain ⟨hd, hrest⟩ := List.pairwise_cons.mp h
    exact List.pairwise_cons.mpr ⟨hname ▸ hd, hrest⟩
  | case4 d rest hlt hname ih =>
    obtain ⟨hd, hrest⟩ := List.pairwise_cons.mp h
    refine List.pairwise_cons.mpr ⟨fun other hother => ?_, ih hrest⟩
    rcases mem_names_alter (m := ⟨rest⟩) hother with rfl | hother
    · exact Std.lt_of_le_of_ne hlt (Ne.symm hname)
    · exact hd other hother

end Alter

theorem get?_set (m : ByName α) (name other : String) (value : α) :
    (m.set name value).get? other = if other = name then some value else m.get? other := by
  split
  · rename_i h
    subst h
    obtain ⟨-, hself⟩ := exists_get?_alter m other fun _ => value
    exact hself
  · rename_i h
    exact get?_alter_of_ne h

theorem contains_set (m : ByName α) (name other : String) (value : α) :
    (m.set name value).contains other ↔ other = name ∨ m.contains other := by
  rw [contains, get?_set]
  split
  · simp [*]
  · simp [*, contains]

theorem mem_set {e : String × α} (h : e ∈ (m.set name value).entries) :
    e = (name, value) ∨ e ∈ m.entries :=
  (mem_alter h).imp_left fun ⟨hname, _, hvalue⟩ => Prod.ext hname hvalue

theorem ascending_set (h : m.Ascending) : (m.set name value).Ascending := ascending_alter h

theorem Ascending.mem_entries_iff (h : m.Ascending) {e : String × α} :
    e ∈ m.entries ↔ m.get? e.1 = some e.2 := by
  refine ⟨fun he => ?_, mem_of_get?⟩
  obtain ⟨entries⟩ := m
  induction entries with
  | nil => exact absurd he List.not_mem_nil
  | cons d rest ih =>
    obtain ⟨hd, hrest⟩ := List.pairwise_cons.mp h
    rw [get?_cons]
    rcases List.mem_cons.mp he with rfl | he
    · exact if_pos rfl
    · have hne : d.1 ≠ e.1 := String.ne_of_lt (hd e.1 (List.mem_map_of_mem he))
      rw [if_neg hne]
      exact ih hrest he

/-- Maps in ascending order are the same if they hold the same values. -/
theorem Ascending.eq_of_get? {other : ByName α} (h : m.Ascending) (h' : other.Ascending)
    (hget : ∀ name, m.get? name = other.get? name) : m = other := by
  have hentries : m.entries = other.entries := by
    apply (List.pairwise_map.mp h).eq_of_mem_iff (List.pairwise_map.mp h')
    intro e
    rw [h.mem_entries_iff, h'.mem_entries_iff, hget]
  obtain ⟨entries⟩ := m
  obtain ⟨entries'⟩ := other
  exact congrArg ByName.mk hentries

end ByName

theorem pairwise_sortedNames (names : List String) :
    (sortedNames names).Pairwise (· < ·) :=
  List.foldlRecOn (motive := ByName.Ascending) names _ ByName.ascending_empty
    fun _ h _ _ => ByName.ascending_set h

theorem mem_names {α : Type} {m : ByName α} {name : String} :
    name ∈ m.names ↔ m.contains name := by
  simp [ByName.names, ByName.contains, ByName.get?, List.mem_map]

theorem mem_sortedNames {names : List String} {name : String} :
    name ∈ sortedNames names ↔ name ∈ names := by
  have hfold : ∀ m : ByName Unit, (names.foldl (fun m name => m.set name ()) m).contains name ↔
      m.contains name ∨ name ∈ names := by
    induction names with
    | nil => simp
    | cons other rest ih =>
      intro m
      rw [List.foldl_cons, ih, ByName.contains_set, List.mem_cons]
      tauto
  rw [sortedNames, mem_names, hfold]
  simp [ByName.contains, ByName.get?]

theorem sortedNames_congr {names others : List String}
    (h : ∀ name, name ∈ names ↔ name ∈ others) : sortedNames names = sortedNames others := by
  refine (pairwise_sortedNames _).eq_of_mem_iff (pairwise_sortedNames _) fun name => ?_
  rw [mem_sortedNames, mem_sortedNames, h]

/-- Names that are sorted twice are those that are sorted once. -/
theorem sortedNames_append_sortedNames (names others : List String) :
    sortedNames (sortedNames names ++ sortedNames others) = sortedNames (names ++ others) :=
  sortedNames_congr fun name => by simp only [mem_sortedNames, List.mem_append]

theorem sortedNames_sortedNames_append (names others : List String) :
    sortedNames (sortedNames names ++ others) = sortedNames (names ++ others) :=
  sortedNames_congr fun name => by simp only [mem_sortedNames, List.mem_append]

theorem sortedNames_append_sortedNames_right (names others : List String) :
    sortedNames (names ++ sortedNames others) = sortedNames (names ++ others) :=
  sortedNames_congr fun name => by simp only [mem_sortedNames, List.mem_append]

theorem sortedNames_sortedNames (names : List String) :
    sortedNames (sortedNames names) = sortedNames names :=
  sortedNames_congr fun _ => mem_sortedNames

end AspectQuery
