import AspectQuery.Number.Binary64
import Mathlib.Algebra.Order.Field.Power
import Mathlib.Data.Nat.Log
import Mathlib.Data.Rat.Cast.Order
import Mathlib.Tactic.FieldSimp
import Mathlib.Tactic.NormNum
import Mathlib.Tactic.Ring
/-!
# Whole numbers in binary floating point

A whole number of 64 bits has a nearest floating-point number, which is finite. It is the number
itself if and only if no more than 53 bits stand between the first one and the last one.
-/

set_option autoImplicit false

namespace AspectQuery

/-- A number of 53 bits with zeros after them. -/
def Representable (i : Int) : Prop := ∃ m k : Nat, m < 2 ^ 53 ∧ i.natAbs = m * 2 ^ k

/-- As many zeros are needed at the end as there are bits after the first 53. -/
theorem representable_iff {i : Int} (hi : i ≠ 0) :
    Representable i ↔ 2 ^ (i.natAbs.log2 - 52) ∣ i.natAbs := by
  have hn : i.natAbs ≠ 0 := Int.natAbs_ne_zero.mpr hi
  have hlt := Nat.lt_log2_self (n := i.natAbs)
  rw [Representable]
  generalize i.natAbs = n at *
  constructor
  · rintro ⟨m, k, hm, rfl⟩
    have hlog : (m * 2 ^ k).log2 < 53 + k := by
      rw [Nat.log2_lt hn, Nat.pow_add]
      exact Nat.mul_lt_mul_of_pos_right hm (Nat.two_pow_pos k)
    exact (Nat.pow_dvd_pow 2 (by omega)).trans (Nat.dvd_mul_left _ m)
  · rintro ⟨m, hm⟩
    refine ⟨m, n.log2 - 52, ?_, hm.trans (Nat.mul_comm _ _)⟩
    have hpow : 2 ^ (n.log2 + 1) ≤ 2 ^ (n.log2 - 52) * 2 ^ 53 := by
      rw [← Nat.pow_add]
      exact Nat.pow_le_pow_right (by decide) (by omega)
    refine Nat.lt_of_mul_lt_mul_left (a := 2 ^ (n.log2 - 52)) ?_
    rw [← hm]
    exact hlt.trans_le hpow

namespace Binary64

/-- What a finite number stands for. -/
def value (x : Binary64) : ℚ :=
  (if x.negative then -1 else 1) * x.significand * 2 ^ x.exponent

theorem ofMagnitude_toNat (negative : Bool) {magnitude : Nat} (h : magnitude < 2 ^ 63) :
    (ofMagnitude negative magnitude).bits.toNat = magnitude + if negative then 2 ^ 63 else 0 := by
  have hlt : (magnitude + if negative then 2 ^ 63 else 0) < 2 ^ 64 := by
    split <;> omega
  exact UInt64.toNat_ofNat_of_lt' hlt

theorem negative_ofMagnitude (negative : Bool) {magnitude : Nat} (h : magnitude < 2 ^ 63) :
    (ofMagnitude negative magnitude).negative = negative := by
  rw [Binary64.negative, ofMagnitude_toNat negative h]
  cases negative
  · simpa using h
  · simp

theorem scale_ofMagnitude (negative : Bool) {magnitude : Nat} (h : magnitude < 2 ^ 63) :
    (ofMagnitude negative magnitude).scale = magnitude / 2 ^ 52 := by
  rw [scale, ofMagnitude_toNat negative h]
  cases negative <;> simp <;> omega

theorem fraction_ofMagnitude (negative : Bool) {magnitude : Nat} (h : magnitude < 2 ^ 63) :
    (ofMagnitude negative magnitude).fraction = magnitude % 2 ^ 52 := by
  rw [fraction, ofMagnitude_toNat negative h]
  cases negative
  · simp
  · simp
    omega

/-- A significand that is rounded up to 53 bits and a zero carries over to the exponent. -/
theorem value_ofMagnitude (negative : Bool) {e q : Nat} (he : e < 2045) (hq : 2 ^ 52 ≤ q)
    (hq' : q ≤ 2 ^ 53) : (ofMagnitude negative (e * 2 ^ 52 + q)).isFinite ∧
      (ofMagnitude negative (e * 2 ^ 52 + q)).value =
        (if negative then -1 else 1) * q * 2 ^ ((e : Int) - 1074) := by
  have hlt : e * 2 ^ 52 + q < 2 ^ 63 := by omega
  have hnegative := negative_ofMagnitude negative hlt
  have hscale := scale_ofMagnitude negative hlt
  have hfraction := fraction_ofMagnitude negative hlt
  generalize ofMagnitude negative (e * 2 ^ 52 + q) = x at *
  have hpos : x.scale ≠ 0 := by omega
  have hfinite : x.isFinite := by
    simp only [isFinite, decide_eq_true_eq]
    omega
  refine ⟨hfinite, ?_⟩
  rw [value, significand, exponent, if_neg hpos, if_neg hpos, hnegative, hscale, hfraction,
    Nat.pow_eq]
  rcases Nat.lt_or_eq_of_le hq' with hlt' | rfl
  · have hdiv : (e * 2 ^ 52 + q) / 2 ^ 52 = e + 1 := by omega
    have hmod : 2 ^ 52 + (e * 2 ^ 52 + q) % 2 ^ 52 = q := by omega
    rw [hdiv, hmod]
    congr 2
    push_cast
    omega
  · have hdiv : (e * 2 ^ 52 + 2 ^ 53) / 2 ^ 52 = e + 2 := by omega
    have hmod : (e * 2 ^ 52 + 2 ^ 53) % 2 ^ 52 = 0 := by omega
    have hexponent : ((e + 2 : Nat) : Int) - 1075 = ((e : Int) - 1074) + 1 := by
      push_cast
      omega
    rw [hdiv, hmod, hexponent, zpow_add_one₀ (two_ne_zero (α := ℚ))]
    push_cast
    ring

/-- The whole part of a binary logarithm is found without a correction for a whole number. -/
theorem logRatio_one {n : Nat} (hn : n ≠ 0) : logRatio n 1 = n.log2 := by
  have hle : 2 ^ n.log2 ≤ n := Nat.log2_self_le hn
  have hone : Nat.log2 1 = 0 := by decide
  simp [logRatio, hone, hle]

theorem roundEven_mul {q d : Nat} (hd : 0 < d) : roundEven (q * d) d = q := by
  simp [roundEven, hd]

theorem roundEven_bounds {n d a b : Nat} (hd : 0 < d) (ha : a * d ≤ n) (hb : n < b * d) :
    a ≤ roundEven n d ∧ roundEven n d ≤ b := by
  have hle : a ≤ n / d := (Nat.le_div_iff_mul_le hd).mpr ha
  have hlt : n / d < b := (Nat.div_lt_iff_lt_mul hd).mpr hb
  simp only [roundEven]
  split <;> omega

theorem roundEven_mul_eq_iff {n d : Nat} (hd : 0 < d) : roundEven n d * d = n ↔ d ∣ n := by
  refine ⟨fun h => ⟨roundEven n d, by rw [Nat.mul_comm, h]⟩, ?_⟩
  rintro ⟨q, rfl⟩
  rw [Nat.mul_comm d q, roundEven_mul hd]

/-- The magnitude is rounded to 53 bits. -/
theorem value_ofInt {i : Int} (hi : i ≠ 0) (hlog : i.natAbs.log2 < 1023) :
    (ofInt i).isFinite ∧ (ofInt i).value = (if i < 0 then -1 else 1) *
      (roundEven (i.natAbs * 2 ^ (52 - i.natAbs.log2)) (2 ^ (i.natAbs.log2 - 52)) : ℕ) *
        2 ^ ((i.natAbs.log2 : Int) - 52) := by
  have hn : i.natAbs ≠ 0 := Int.natAbs_ne_zero.mpr hi
  have hle := Nat.log2_self_le hn
  have hlt := Nat.lt_log2_self (n := i.natAbs)
  simp only [ofInt, ofRatio, if_neg hn, logRatio_one hn]
  generalize i.natAbs = n at *
  generalize n.log2 = k at *
  have he : max ((k : Int) - 52) (-1074) = k - 52 := by omega
  have hneg : (-((k : Int) - 52)).toNat = 52 - k := by omega
  have hpos : ((k : Int) - 52).toNat = k - 52 := by omega
  have hshift : ((k : Int) - 52 + 1074).toNat = k + 1022 := by omega
  rw [he, hneg, hpos, hshift]
  simp only [Nat.pow_eq, Nat.one_mul]
  -- A magnitude of `k + 1` bits has 53 of them before the point, and rounding may add one.
  have hpow : ∀ j, 2 ^ (52 + j) * 2 ^ (k - 52) = 2 ^ (k + j) * 2 ^ (52 - k) := fun j => by
    rw [← Nat.pow_add, ← Nat.pow_add]
    congr 1
    omega
  obtain ⟨hq, hq'⟩ := roundEven_bounds (n := n * 2 ^ (52 - k)) (a := 2 ^ 52) (b := 2 ^ 53)
    (Nat.two_pow_pos (k - 52))
    (hpow 0 ▸ Nat.mul_le_mul_right _ hle)
    (hpow 1 ▸ Nat.mul_lt_mul_of_pos_right hlt (Nat.two_pow_pos _))
  generalize roundEven (n * 2 ^ (52 - k)) (2 ^ (k - 52)) = q at *
  have hmin : min ((k + 1022) * 2 ^ 52 + q) infiniteMagnitude = (k + 1022) * 2 ^ 52 + q := by
    refine Nat.min_eq_left ?_
    simp only [infiniteMagnitude, Nat.pow_eq]
    omega
  rw [hmin]
  obtain ⟨hfinite, hvalue⟩ := value_ofMagnitude (decide (i < 0)) (e := k + 1022)
    (by omega) hq hq'
  refine ⟨hfinite, hvalue.trans ?_⟩
  have hexponent : ((k + 1022 : Nat) : Int) - 1074 = k - 52 := by omega
  rw [hexponent]
  simp

theorem ofInt_zero : (ofInt 0).isFinite ∧ (ofInt 0).value = 0 := by
  have hzero : ofInt 0 = ⟨0⟩ := by decide
  have hsignificand : (⟨0⟩ : Binary64).significand = 0 := by decide
  rw [hzero, value, hsignificand]
  exact ⟨by decide, by simp⟩

theorem isFinite_ofInt {i : Int} (hlog : i.natAbs.log2 < 1023) : (ofInt i).isFinite := by
  rcases eq_or_ne i 0 with rfl | hi
  · exact ofInt_zero.1
  · exact (value_ofInt hi hlog).1

theorem value_ofInt_eq_iff {i : Int} (hlog : i.natAbs.log2 < 1023) :
    (ofInt i).value = i ↔ Representable i := by
  rcases eq_or_ne i 0 with rfl | hi
  · exact iff_of_true (by simpa using ofInt_zero.2) ⟨0, 0, by decide, rfl⟩
  rw [(value_ofInt hi hlog).2, representable_iff hi]
  have hsign : (i : ℚ) = (if i < 0 then -1 else 1) * (i.natAbs : ℕ) := by
    rw [Nat.cast_natAbs]
    split
    · rw [abs_of_neg ‹_›]
      simp
    · rw [abs_of_nonneg (not_lt.mp ‹_›)]
      simp
  have hne : (if i < 0 then -1 else 1 : ℚ) ≠ 0 := by
    split <;> simp
  rw [hsign, mul_assoc, mul_right_inj' hne]
  generalize i.natAbs = n
  generalize n.log2 = k
  have hscale : (2 : ℚ) ^ ((k : Int) - 52) * 2 ^ (52 - k) = 2 ^ (k - 52) := by
    rw [← zpow_natCast, ← zpow_natCast, ← zpow_add₀ two_ne_zero]
    congr 1
    omega
  have hpow : (2 : ℚ) ^ (52 - k) ≠ 0 := pow_ne_zero _ two_ne_zero
  have hdvd : 2 ^ (k - 52) ∣ n * 2 ^ (52 - k) ↔ 2 ^ (k - 52) ∣ n := by
    rcases Nat.le_total k 52 with hk | hk
    · simp [Nat.sub_eq_zero_of_le hk]
    · simp [Nat.sub_eq_zero_of_le hk]
  rw [← hdvd, ← roundEven_mul_eq_iff (Nat.two_pow_pos _), ← mul_left_inj' hpow, mul_assoc, hscale]
  norm_cast

end Binary64

end AspectQuery
