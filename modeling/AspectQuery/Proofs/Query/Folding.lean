import AspectQuery.Proofs.Query.Grouping
import AspectQuery.Proofs.Text.Utf8
/-!
# What the groups of values add up to

Every group of a single value is counted once, under the key of the value. What is counted depends
neither on the order of the groups nor on how the items of one value are spread over them.
-/

set_option autoImplicit false

namespace AspectQuery.Grouping

open Text (isAlphabetic upperChar)

variable {name : String} {v : Value} {groups others : List ValueGroup}

section Key

/-- The key of a text that starts with a letter is this letter in capitals. All other values have
one key. -/
inductive HasKey : Value → String → Prop
  | letter {s : String} {c : Char} {cs : List Char} (hs : s.toList = c :: cs)
      (hc : isAlphabetic c) : HasKey (.text s) (String.ofList (upperChar c))
  | other {v : Value} (h : ∀ s c cs, v = .text s → s.toList = c :: cs → ¬isAlphabetic c) :
      HasKey v otherName

theorem groupName_text {s : String} {c : Char} {cs : List Char} (hs : s.toList = c :: cs)
    (hc : isAlphabetic c) : groupName (.text s) = String.ofList (upperChar c) :=
  String.toList_inj.mp ((toList_groupName hs hc).trans String.toList_ofList.symm)

theorem hasKey_iff : HasKey v name ↔ groupName v = name := by
  constructor
  · intro h
    cases h with
    | letter hs hc => exact groupName_text hs hc
    | other h =>
      by_contra hname
      obtain ⟨s, c, cs, rfl, hs, hc⟩ := exists_letter_of_groupName hname
      exact h s c cs rfl hs hc
  · rintro rfl
    by_cases h : groupName v = otherName
    · rw [h]
      refine .other fun s c cs hv hs hc => ?_
      subst hv
      exact IsLetter.ne_otherName ⟨c, hc, toList_groupName hs hc⟩ h
    · obtain ⟨s, c, cs, rfl, hs, hc⟩ := exists_letter_of_groupName h
      rw [groupName_text hs hc]
      exact .letter hs hc

instance : Decidable (HasKey v name) := decidable_of_iff _ hasKey_iff.symm

theorem filter_hasKey (name : String) (groups : List ValueGroup) :
    (groups.filter fun g => HasKey g.value name) = members name groups := by
  simp only [members, hasKey_iff]

end Key

section Regrouping

/-- The same items in another order of the groups, or with the items of one group spread over two
groups of its value. -/
inductive Regroups : List ValueGroup → List ValueGroup → Prop
  | perm {groups others : List ValueGroup} (h : groups.Perm others) : Regroups groups others
  | split {groups : List ValueGroup} {v : Value} {n n₁ n₂ : UInt64}
      (h : n.toNat = n₁.toNat + n₂.toNat) :
      Regroups (⟨v, n⟩ :: groups) (⟨v, n₁⟩ :: ⟨v, n₂⟩ :: groups)
  | symm {groups others : List ValueGroup} (h : Regroups groups others) : Regroups others groups
  | trans {groups others more : List ValueGroup} (h : Regroups groups others)
      (h' : Regroups others more) : Regroups groups more

theorem Regroups.keys_and_totals (h : Regroups groups others) (name : String) :
    (members name groups = [] ↔ members name others = []) ∧
      total (members name groups) = total (members name others) := by
  induction h with
  | perm h =>
    have hmembers := h.filter fun g => groupName g.value = name
    refine ⟨?_, total_perm hmembers⟩
    rw [← List.length_eq_zero_iff, ← List.length_eq_zero_iff]
    exact hmembers.length_eq.congr_left
  | split h =>
    simp only [members_cons]
    split
    · exact ⟨by simp, by simp only [total_cons]; omega⟩
    · exact ⟨Iff.rfl, rfl⟩
  | symm _ ih => exact ⟨ih.1.symm, ih.2.symm⟩
  | trans _ _ ih ih' => exact ⟨ih.1.trans ih'.1, ih.2.trans ih'.2⟩

theorem Regroups.apply_eq (h : Regroups groups others) (grouping : Grouping)
    (path : AttributePath) : grouping.apply path groups = grouping.apply path others := by
  have hcounts := counts_congr (fun name => (h.keys_and_totals name).1)
    fun name => (h.keys_and_totals name).2
  cases grouping with
  | firstCharacter => exact congrArg (fun m : ByName UInt64 => m.entries.map _) hcounts

end Regrouping

section Folding

/-- The results tell what the groups add up to by their keys. Names are compared by their bytes. -/
structure Folding (groups : List ValueGroup) (rs : List ResultGroup) : Prop where
  ascending : rs.Pairwise fun a b => Utf8.encode a.name < Utf8.encode b.name
  occurs : ∀ name, (∃ r ∈ rs, r.name = name) ↔ ∃ g ∈ groups, HasKey g.value name
  counted : ∀ r ∈ rs, r.count.toNat = total (groups.filter fun g => HasKey g.value r.name)
  conserved : (rs.map fun r => r.count.toNat).sum = total groups
  unfiltered : ∀ r ∈ rs, r.filter = none ↔ r.name = otherName

theorem groupFilter_eq_none {path : AttributePath} : groupFilter path name = none ↔
    name = otherName := by
  unfold groupFilter
  split <;> simp [*]

theorem folding_apply (path : AttributePath) (h : total groups < 2 ^ 64) :
    Folding groups (firstCharacter.apply path groups) where
  ascending := by
    refine List.pairwise_map.mpr ((List.pairwise_map.mp (tallies_counts groups).ascending).imp ?_)
    exact Utf8.encode_lt_encode.mpr
  occurs name := by
    simp only [hasKey_iff]
    rw [← members_ne_nil, ← mem_names_counts]
    simp [apply, ByName.names]
  counted r hr := by
    obtain ⟨e, he, rfl⟩ := List.mem_map.mp hr
    rw [filter_hasKey]
    exact toNat_of_mem_counts h he
  conserved := by
    have hnodup : (counts groups).names.Nodup :=
      (tallies_counts groups).ascending.imp String.ne_of_lt
    have hnames : ∀ g ∈ groups, groupName g.value ∈ (counts groups).names := fun g hg =>
      mem_names_counts.mpr (members_ne_nil.mpr ⟨g, hg, rfl⟩)
    rw [← sum_total_members hnodup hnames, apply, List.map_map, ByName.names, List.map_map]
    exact congrArg List.sum (List.map_congr_left fun e he => toNat_of_mem_counts h he)
  unfiltered r hr := by
    obtain ⟨e, -, rfl⟩ := List.mem_map.mp hr
    exact groupFilter_eq_none

/-- Groups whose counts sum up to a word are folded without loss or overflow. Neither their order
nor how the items of a value are spread over them matters. -/
theorem firstCharacter_conserves (path : AttributePath) (groups : List ValueGroup)
    (h : total groups < 2 ^ 64) :
    Folding groups (firstCharacter.apply path groups) ∧
      (∀ before g after, groups = before ++ g :: after →
        (((counts before).get? (groupName g.value)).getD 0).toNat + g.count.toNat < 2 ^ 64) ∧
      ∀ others, Regroups groups others →
        firstCharacter.apply path others = firstCharacter.apply path groups := by
  refine ⟨folding_apply path h, ?_, fun others hothers => (hothers.apply_eq _ path).symm⟩
  rintro before g after rfl
  exact count_add_lt h

/-- The capitals of a sharp s are two letters. The counts sum up to the last word. -/
theorem firstCharacter_conserves_films :
    let path : AttributePath := ⟨"film", "title"⟩
    let groups : List ValueGroup := [⟨.text "ß", 0x8000000000000000⟩,
      ⟨.text "alien", 0x7ffffffffffffffd⟩, ⟨.null, 1⟩, ⟨.text "Aliens", 1⟩]
    let rs : List ResultGroup := [⟨"#", 1, none⟩,
      ⟨"A", 0x7ffffffffffffffe, groupFilter path "A"⟩,
      ⟨"SS", 0x8000000000000000, groupFilter path "SS"⟩]
    total groups < 2 ^ 64 ∧ firstCharacter.apply path groups = rs ∧ Folding groups rs ∧
      (∀ before g after, groups = before ++ g :: after →
        (((counts before).get? (groupName g.value)).getD 0).toNat + g.count.toNat < 2 ^ 64) ∧
      ∀ others, Regroups groups others → firstCharacter.apply path others = rs := by
  intro path groups rs
  have htotal : total groups < 2 ^ 64 := by decide
  have happly : firstCharacter.apply path groups = rs := rfl
  obtain ⟨hfolding, hadd, hregroups⟩ := firstCharacter_conserves path groups htotal
  rw [happly] at hfolding hregroups
  exact ⟨htotal, happly, hfolding, hadd, hregroups⟩

end Folding

end AspectQuery.Grouping
