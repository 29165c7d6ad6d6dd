import AspectQuery.Text.Casing
import AspectQuery.Text.Letter
import Mathlib.Data.Nat.Bitwise
/-!
# Capitals

None but letters have capitals of their own. The capitals of a letter start with a letter, and none
of them has other capitals. The tables are compared as sets of code points, which are kept as the
bits of a number.
-/

set_option autoImplicit false

namespace AspectQuery.Text

section Bits

variable {n : Nat} {ns ks : List Nat}

/-- The number with these bits. -/
def bits (ns : List Nat) : Nat := ns.foldr (fun n b => 1 <<< n ||| b) 0

theorem testBit_bits : (bits ns).testBit n = true ↔ n ∈ ns := by
  induction ns with
  | nil => simp [bits]
  | cons k ns ih =>
    have hbit : (1 <<< k).testBit n = true ↔ n = k := by
      rw [Nat.one_shiftLeft, Nat.testBit_two_pow, decide_eq_true_iff]
      exact eq_comm
    have hcons : bits (k :: ns) = 1 <<< k ||| bits ns := rfl
    rw [hcons, Nat.testBit_or, Bool.or_eq_true, hbit, ih, List.mem_cons]

/-- Every range has its bits one after another. -/
def CharSet.bits (s : CharSet) : Nat :=
  s.ranges.foldr (fun r b => (2 ^ (r.2 + 1 - r.1) - 1) <<< r.1 ||| b) 0

theorem CharSet.contains_eq_testBit (s : CharSet) (c : Char) :
    s.contains c = s.bits.testBit c.toNat := by
  obtain ⟨ranges⟩ := s
  induction ranges with
  | nil => simp [contains, bits]
  | cons r ranges ih =>
    have hbits : bits ⟨r :: ranges⟩ = (2 ^ (r.2 + 1 - r.1) - 1) <<< r.1 ||| bits ⟨ranges⟩ := rfl
    have hcons : contains ⟨r :: ranges⟩ c =
        (decide (r.1 ≤ c.toNat ∧ c.toNat ≤ r.2) || contains ⟨ranges⟩ c) := rfl
    rw [hbits, hcons, Nat.testBit_or, ih, Nat.testBit_shiftLeft, Nat.testBit_two_pow_sub_one]
    congr 1
    rw [Bool.eq_iff_iff, Bool.and_eq_true, decide_eq_true_iff, decide_eq_true_iff,
      decide_eq_true_iff]
    omega

theorem testBit_of_and_bits {b : Nat} (h : b &&& bits ns = bits ns) (hn : n ∈ ns) :
    b.testBit n = true := by
  have hbit := testBit_bits.mpr hn
  rw [← h, Nat.testBit_and, Bool.and_eq_true] at hbit
  exact hbit.1

theorem notMem_of_bits_and (h : bits ks &&& bits ns = 0) (hn : n ∈ ns) : n ∉ ks := by
  intro hk
  have hbit : (bits ks &&& bits ns).testBit n = true := by
    rw [Nat.testBit_and, testBit_bits.mpr hk, testBit_bits.mpr hn]
    rfl
  simp [h] at hbit

end Bits

/-- The code points of a run, each with what it becomes. -/
def CaseRun.pairs (r : CaseRun) : List (Nat × List Nat) :=
  (List.range' r.first ((r.last - r.first) / r.step + 1) r.step).map fun n =>
    (n, [((n : Int) + r.offset).toNat])

theorem CaseRun.mem_pairs {r : CaseRun} {n k : Nat} (h : r.map? n = some k) :
    (n, [k]) ∈ r.pairs := by
  rw [map?] at h
  split at h
  · rename_i hn
    obtain ⟨hfirst, hlast, hstep⟩ := hn
    obtain rfl := Option.some.inj h
    refine List.mem_map.mpr ⟨n, List.mem_range'.mpr ⟨(n - r.first) / r.step, ?_, ?_⟩, rfl⟩
    · exact Nat.lt_succ_of_le (Nat.div_le_div_right (by omega))
    · rw [Nat.mul_div_cancel' (Nat.dvd_of_mod_eq_zero hstep)]
      omega
  · simp at h

namespace CaseMap

variable {m : CaseMap} {c d : Char}

/-- All code points that are mapped to others. -/
def pairs (m : CaseMap) : List (Nat × List Nat) := m.expansions ++ m.runs.flatMap CaseRun.pairs

def sources (m : CaseMap) : List Nat := m.pairs.map Prod.fst

theorem apply_eq (m : CaseMap) (c : Char) :
    m.apply c = [c] ∨ ∃ ns, (c.toNat, ns) ∈ m.pairs ∧ m.apply c = ns.map Char.ofNat := by
  unfold apply
  split
  · rename_i ns hns
    obtain ⟨before, behind, heq, -⟩ := List.lookup_eq_some_iff.mp hns
    exact .inr ⟨ns, List.mem_append_left _ (by simp [heq]), rfl⟩
  · split
    · rename_i n hn
      obtain ⟨r, hr, hmap⟩ := List.exists_of_findSome?_eq_some hn
      have hpair : (c.toNat, [n]) ∈ m.runs.flatMap CaseRun.pairs :=
        List.mem_flatMap.mpr ⟨r, hr, r.mem_pairs hmap⟩
      exact .inr ⟨[n], List.mem_append_right _ hpair, rfl⟩
    · exact .inl rfl

theorem apply_of_notMem (h : c.toNat ∉ m.sources) : m.apply c = [c] := by
  rcases m.apply_eq c with hsame | ⟨ns, hns, -⟩
  · exact hsame
  · exact absurd (List.mem_map_of_mem hns) h

end CaseMap

section Capitals

variable {c d : Char}

/-- Only letters become others, and what they become starts with a letter. -/
theorem letters_upperMap :
    alphabetic.bits &&& bits upperMap.sources = bits upperMap.sources ∧
      alphabetic.bits &&& bits (upperMap.pairs.map fun e => e.2.headD 0) =
        bits (upperMap.pairs.map fun e => e.2.headD 0) := by
  decide +kernel

/-- Nothing becomes what becomes something else. -/
theorem targets_upperMap :
    bits upperMap.sources &&& bits (upperMap.pairs.flatMap Prod.snd) = 0 ∧
      ∀ n ∈ upperMap.pairs.flatMap Prod.snd, n.isValidChar := by
  decide +kernel

theorem toNat_ofNat {n : Nat} (h : n.isValidChar) : (Char.ofNat n).toNat = n := by
  rw [Char.ofNat, dif_pos h]
  rfl

theorem upperChar_of_not_isAlphabetic (h : isAlphabetic c = false) : upperChar c = [c] := by
  apply CaseMap.apply_of_notMem
  intro hc
  have hletter := testBit_of_and_bits letters_upperMap.1 hc
  rw [← alphabetic.contains_eq_testBit] at hletter
  simp [isAlphabetic, hletter] at h

theorem exists_upperChar (h : isAlphabetic c) : ∃ d ds, upperChar c = d :: ds ∧ isAlphabetic d := by
  rcases upperMap.apply_eq c with hsame | ⟨ns, hns, happly⟩
  · exact ⟨c, [], hsame, h⟩
  · have hhead : ns.headD 0 ∈ upperMap.pairs.map fun e => e.2.headD 0 :=
      List.mem_map.mpr ⟨_, hns, rfl⟩
    have hletter := testBit_of_and_bits letters_upperMap.2 hhead
    cases ns with
    | nil => exact absurd hletter (by decide +kernel)
    | cons n ns =>
      have hvalid : n.isValidChar :=
        targets_upperMap.2 n (List.mem_flatMap.mpr ⟨_, hns, List.mem_cons_self⟩)
      refine ⟨Char.ofNat n, ns.map Char.ofNat, happly, ?_⟩
      rw [isAlphabetic, alphabetic.contains_eq_testBit, toNat_ofNat hvalid]
      exact hletter

/-- Capitals stay as they are. -/
theorem upperChar_of_mem (h : d ∈ upperChar c) : upperChar d = [d] := by
  rcases upperMap.apply_eq c with hsame | ⟨ns, hns, happly⟩
  · rw [upperChar, hsame, List.mem_singleton] at h
    exact h ▸ hsame
  · rw [upperChar, happly] at h
    obtain ⟨n, hn, rfl⟩ := List.mem_map.mp h
    have htarget : n ∈ upperMap.pairs.flatMap Prod.snd := List.mem_flatMap.mpr ⟨_, hns, hn⟩
    apply CaseMap.apply_of_notMem
    rw [toNat_ofNat (targets_upperMap.2 n htarget)]
    exact notMem_of_bits_and targets_upperMap.1 htarget

end Capitals

end AspectQuery.Text
