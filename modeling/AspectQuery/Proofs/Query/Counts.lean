import AspectQuery.Proofs.ByName
import AspectQuery.Query.Grouping
import Mathlib.Algebra.Order.BigOperators.Group.List
import Mathlib.Algebra.Order.Ring.Nat
import Mathlib.Data.List.Induction
/-!
# Counting by names

Counting goes through the groups one by one. At every point it holds the sum of what was counted
under each name so far.
-/

set_option autoImplicit false

namespace AspectQuery.Grouping

variable {name : String} {g : ValueGroup} {groups others : List ValueGroup} {m : ByName UInt64}

section Total

def total (groups : List ValueGroup) : Nat := (groups.map fun g => g.count.toNat).sum

/-- The groups with a name. -/
def members (name : String) (groups : List ValueGroup) : List ValueGroup :=
  groups.filter fun g => groupName g.value = name

@[simp] theorem total_nil : total [] = 0 := rfl

@[simp] theorem total_cons : total (g :: groups) = g.count.toNat + total groups := by
  simp [total]

@[simp] theorem total_append : total (groups ++ others) = total groups + total others := by
  simp [total]

theorem total_perm (h : groups.Perm others) : total groups = total others := (h.map _).sum_nat

theorem total_members_le (name : String) (groups : List ValueGroup) :
    total (members name groups) ≤ total groups :=
  (List.filter_sublist.map _).sum_le_sum fun _ _ => Nat.zero_le _

theorem members_append :
    members name (groups ++ others) = members name groups ++ members name others :=
  List.filter_append _ _

theorem members_cons : members name (g :: groups) =
    if groupName g.value = name then g :: members name groups else members name groups := by
  simp [members, List.filter_cons]

theorem members_ne_nil : members name groups ≠ [] ↔ ∃ g ∈ groups, groupName g.value = name := by
  simp [members]

/-- Every group is counted under one of the names. -/
theorem sum_total_members {names : List String} (hnames : names.Nodup)
    (h : ∀ g ∈ groups, groupName g.value ∈ names) :
    (names.map fun name => total (members name groups)).sum = total groups := by
  induction groups with
  | nil => simp [members]
  | cons g groups ih =>
    have hkey := h g List.mem_cons_self
    have hcons : ∀ name, total (members name (g :: groups)) =
        (if groupName g.value = name then g.count.toNat else 0) + total (members name groups) := by
      intro name
      rw [members_cons]
      split
      · exact total_cons
      · exact (Nat.zero_add _).symm
    have hone : (names.map fun name => if groupName g.value = name then g.count.toNat else 0).sum =
        g.count.toNat := by
      rw [List.sum_map_eq_nsmul_single (groupName g.value) _ fun name hname _ => if_neg hname.symm,
        List.count_eq_one_of_mem hnames hkey, if_pos rfl, one_nsmul]
    simp only [hcons]
    rw [List.sum_map_add, hone, ih fun g hg => h g (List.mem_cons_of_mem _ hg), total_cons]

end Total

section Counts

/-- The map holds the sum of the counts of each name, modulo the number of words. -/
structure Tallies (groups : List ValueGroup) (m : ByName UInt64) : Prop where
  ascending : m.Ascending
  get?_eq : ∀ name, m.get? name = if members name groups = [] then none else
    some (UInt64.ofNat (total (members name groups)))

theorem Tallies.getD_eq (h : Tallies groups m) (name : String) :
    (m.get? name).getD 0 = UInt64.ofNat (total (members name groups)) := by
  rw [h.get?_eq]
  split
  · rename_i hnil
    rw [hnil]
    rfl
  · rfl

theorem Tallies.append_singleton (h : Tallies groups m) (g : ValueGroup) :
    Tallies (groups ++ [g]) (m.alter (groupName g.value) fun n => n.getD 0 + g.count) where
  ascending := ByName.ascending_alter h.ascending
  get?_eq name := by
    rw [members_append, members_cons]
    by_cases hname : groupName g.value = name
    · subst hname
      rw [ByName.get?_alter_self h.ascending, h.getD_eq, if_pos rfl, if_neg (by simp)]
      simp [members, UInt64.ofNat_add]
    · rw [ByName.get?_alter_of_ne (Ne.symm hname), h.get?_eq, if_neg hname]
      simp [members]

theorem tallies_counts (groups : List ValueGroup) : Tallies groups (counts groups) := by
  induction groups using List.reverseRecOn with
  | nil => exact ⟨ByName.ascending_empty, fun name => rfl⟩
  | append_singleton groups g ih =>
    rw [counts, List.foldl_append]
    exact ih.append_singleton g

/-- Only the names and the sum of each of them are seen in the counts. -/
theorem counts_congr (hkeys : ∀ name, members name groups = [] ↔ members name others = [])
    (htotals : ∀ name, total (members name groups) = total (members name others)) :
    counts groups = counts others := by
  have h := tallies_counts groups
  have h' := tallies_counts others
  refine h.ascending.eq_of_get? h'.ascending fun name => ?_
  simp only [h.get?_eq, h'.get?_eq, hkeys, htotals]

theorem toNat_ofNat_total (h : total groups < 2 ^ 64) (name : String) :
    (UInt64.ofNat (total (members name groups))).toNat = total (members name groups) :=
  UInt64.toNat_ofNat_of_lt' (Nat.lt_of_le_of_lt (total_members_le name groups) h)

theorem toNat_of_mem_counts (h : total groups < 2 ^ 64) {e : String × UInt64}
    (he : e ∈ (counts groups).entries) : e.2.toNat = total (members e.1 groups) := by
  have htallies := tallies_counts groups
  have hget := htallies.ascending.mem_entries_iff.mp he
  rw [htallies.get?_eq] at hget
  split at hget
  · cases hget
  · rw [← Option.some.inj hget]
    exact toNat_ofNat_total h e.1

theorem mem_names_counts : name ∈ (counts groups).names ↔ members name groups ≠ [] := by
  rw [mem_names, ByName.contains, (tallies_counts groups).get?_eq]
  split <;> simp [*]

/-- Wherever the counting stands, the next count can be added to the one of its name. -/
theorem count_add_lt {before after : List ValueGroup}
    (h : total (before ++ g :: after) < 2 ^ 64) :
    (((counts before).get? (groupName g.value)).getD 0).toNat + g.count.toNat < 2 ^ 64 := by
  rw [total_append, total_cons] at h
  have hbefore : total before < 2 ^ 64 := by omega
  have hmembers := total_members_le (groupName g.value) before
  rw [(tallies_counts before).getD_eq, toNat_ofNat_total hbefore]
  omega

end Counts

end AspectQuery.Grouping
