/-!
# The letters of ASCII

A letter of ASCII and the same letter in the other case are 32 code points apart, and no other
character has a case here.
-/

set_option autoImplicit false

namespace AspectQuery.Ascii

variable {c : Char}

theorem isUpper_iff_le : c.isUpper ↔ 'A' ≤ c ∧ c ≤ 'Z' := decide_eq_true_iff

theorem isLower_iff_le : c.isLower ↔ 'a' ≤ c ∧ c ≤ 'z' :=
  Bool.and_eq_true_iff.trans (and_congr decide_eq_true_iff decide_eq_true_iff)

theorem isAlpha_iff : c.isAlpha ↔ c.isUpper ∨ c.isLower := Bool.or_eq_true_iff

theorem isUpper_iff : c.isUpper ↔ 65 ≤ c.toNat ∧ c.toNat ≤ 90 := by
  simp [isUpper_iff_le, Char.le_def, UInt32.le_iff_toNat_le, ← Char.toNat_val]

theorem isLower_iff : c.isLower ↔ 97 ≤ c.toNat ∧ c.toNat ≤ 122 := by
  simp [isLower_iff_le, Char.le_def, UInt32.le_iff_toNat_le, ← Char.toNat_val]

theorem toUpper_eq_self (hc : c.isLower = false) : c.toUpper = c :=
  dif_neg (mt isLower_iff_le.mpr (Bool.eq_false_iff.mp hc))

theorem toLower_eq_self (hc : c.isUpper = false) : c.toLower = c :=
  dif_neg (mt isUpper_iff_le.mpr (Bool.eq_false_iff.mp hc))

theorem toNat_toUpper (hc : c.isLower) : c.toUpper.toNat + 32 = c.toNat := by
  have hrange := isLower_iff.mp hc
  have hletter : 'a'.val ≤ c.val ∧ c.val ≤ 'z'.val := isLower_iff_le.mp hc
  have hcapital : c.toUpper = _ := dif_pos hletter
  rw [hcapital, ← Char.toNat_val, UInt32.toNat_add, Char.toNat_val]
  simp
  omega

theorem toNat_toLower (hc : c.isUpper) : c.toLower.toNat = c.toNat + 32 := by
  have hrange := isUpper_iff.mp hc
  have hletter : c.val ≥ 'A'.val ∧ c.val ≤ 'Z'.val := isUpper_iff_le.mp hc
  have hsmall : c.toLower = _ := dif_pos hletter
  rw [hsmall, ← Char.toNat_val, UInt32.toNat_add, Char.toNat_val]
  simp
  omega

theorem isUpper_toUpper (hc : c.isLower) : c.toUpper.isUpper := by
  have hrange := isLower_iff.mp hc
  have hcapital := toNat_toUpper hc
  rw [isUpper_iff]
  omega

theorem isLower_toLower (hc : c.isUpper) : c.toLower.isLower := by
  have hrange := isUpper_iff.mp hc
  rw [isLower_iff, toNat_toLower hc]
  omega

theorem isLower_eq_false (hc : c.isUpper) : c.isLower = false := by
  have hrange := isUpper_iff.mp hc
  rw [Bool.eq_false_iff, Ne, isLower_iff]
  omega

theorem toLower_toUpper (hc : c.isLower) : c.toUpper.toLower = c := by
  rw [← Char.toNat_inj, toNat_toLower (isUpper_toUpper hc), toNat_toUpper hc]

theorem toUpper_toLower (hc : c.isUpper) : c.toLower.toUpper = c := by
  have hcapital := toNat_toUpper (isLower_toLower hc)
  rw [toNat_toLower hc, Nat.add_right_cancel_iff] at hcapital
  exact Char.toNat_inj.mp hcapital

theorem isLower_toUpper (c : Char) : c.toUpper.isLower = false := by
  cases hc : c.isLower with
  | false => rwa [toUpper_eq_self hc]
  | true => exact isLower_eq_false (isUpper_toUpper hc)

end AspectQuery.Ascii
