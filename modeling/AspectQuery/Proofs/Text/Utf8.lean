import AspectQuery.Text.Utf8
import Mathlib.Algebra.Group.Nat.Defs
import Mathlib.Tactic.ByContra
import Mathlib.Tactic.SplitIfs
/-!
# Texts and their bytes

Bytes spell a text if and only if they are its encoding. The encodings of texts, compared byte by
byte, stand in the order of the texts, compared by code points.
-/

set_option autoImplicit false

namespace AspectQuery.Utf8

theorem encode_eq (s : String) : encode s = s.toList.flatMap String.utf8EncodeChar := by
  rw [encode, String.toUTF8_eq_toByteArray, ← String.utf8Encode_toList, List.utf8Encode]
  simp

theorem encode_append (s t : String) : encode (s ++ t) = encode s ++ encode t := by
  simp only [encode_eq, String.toList_append, List.flatMap_append]

theorem toByteArray_encode (s : String) : (⟨(encode s).toArray⟩ : ByteArray) = s.toByteArray := by
  simp [encode]

theorem decode_eq_ok {bytes : List UInt8} {s : String} :
    decode bytes = .ok s ↔ encode s = bytes := by
  constructor
  · intro h
    rw [decode] at h
    split at h
    · rename_i t ht
      obtain rfl := Except.ok.inj h
      rw [String.fromUTF8?] at ht
      split at ht
      · obtain rfl := Option.some.inj ht
        rfl
      · cases ht
    · cases h
  · rintro rfl
    have hvalid := toByteArray_encode s ▸ s.isValidUTF8
    have hread : String.fromUTF8? ⟨(encode s).toArray⟩ = some s := by
      rw [String.fromUTF8?, dif_pos hvalid]
      rfl
    rw [decode, hread]

theorem encode_inj {s t : String} : encode s = encode t ↔ s = t := by
  refine ⟨fun h => ?_, congrArg encode⟩
  exact Except.ok.inj ((decode_eq_ok.mpr h).symm.trans (decode_eq_ok.mpr rfl))

section Order

/-- Whatever follows the bytes, the first ones come before the others. -/
def Below (as bs : List UInt8) : Prop := ∀ xs ys, as ++ xs < bs ++ ys

/-- The bytes of a code point: the first one says how many there are, and each of the `k` after it
holds six bits. -/
def spread (first : Nat) : Nat → Nat → List UInt8
  | 0, n => [UInt8.ofNat (n + first)]
  | k + 1, n => spread first k (n / 64) ++ [UInt8.ofNat (n % 64 + 0x80)]

variable {first first' k k' m n : Nat}

theorem exists_spread (first k n : Nat) :
    ∃ bytes, spread first k n = UInt8.ofNat (n / 64 ^ k + first) :: bytes := by
  induction k generalizing n with
  | zero => exact ⟨[], by simp [spread]⟩
  | succ k ih =>
    obtain ⟨bytes, hbytes⟩ := ih (n / 64)
    refine ⟨bytes ++ [UInt8.ofNat (n % 64 + 0x80)], ?_⟩
    rw [spread, hbytes, Nat.div_div_eq_div_mul, Nat.pow_succ', List.cons_append]

theorem below_of_first (hlt : m / 64 ^ k + first < n / 64 ^ k' + first')
    (hn : n / 64 ^ k' + first' < 256) : Below (spread first k m) (spread first' k' n) := by
  obtain ⟨as, has⟩ := exists_spread first k m
  obtain ⟨bs, hbs⟩ := exists_spread first' k' n
  intro xs ys
  rw [has, hbs]
  apply List.cons_lt_cons_iff.mpr
  left
  exact (UInt8.ofNat_lt_iff_lt (Nat.lt_trans hlt hn) hn).mpr hlt

/-- Numbers in as many bytes are compared by their high bits, and by the last six if these agree. -/
theorem below_spread (h : m < n) (hn : n / 64 ^ k + first < 256) :
    Below (spread first k m) (spread first k n) := by
  induction k generalizing m n with
  | zero =>
    apply below_of_first
    · omega
    · exact hn
  | succ k ih =>
    intro xs ys
    rw [spread, spread, List.append_assoc, List.append_assoc]
    rcases Nat.lt_or_eq_of_le (Nat.div_le_div_right (c := 64) (Nat.le_of_lt h)) with hlt | heq
    · apply ih hlt
      rwa [Nat.div_div_eq_div_mul, ← Nat.pow_succ']
    · rw [heq]
      apply List.append_left_lt
      apply List.cons_lt_cons_iff.mpr
      left
      apply (UInt8.ofNat_lt_iff_lt _ _).mpr
      · omega
      · exact Nat.lt_of_lt_of_le (Nat.add_lt_add_right (Nat.mod_lt m (by decide)) _) (by decide)
      · exact Nat.lt_of_lt_of_le (Nat.add_lt_add_right (Nat.mod_lt n (by decide)) _) (by decide)

theorem toNat_lt (c : Char) : c.toNat < 0x110000 := by
  have hvalid := c.valid
  unfold UInt32.isValidChar Nat.isValidChar at hvalid
  unfold Char.toNat
  omega

theorem utf8EncodeChar_eq (c : Char) : String.utf8EncodeChar c =
    if c.toNat ≤ 0x7f then spread 0 0 c.toNat
    else if c.toNat ≤ 0x7ff then spread 0xc0 1 c.toNat
    else if c.toNat ≤ 0xffff then spread 0xe0 2 c.toNat
    else spread 0xf0 3 c.toNat := by
  have hmax := toNat_lt c
  have htoNat : c.val.toNat = c.toNat := rfl
  unfold String.utf8EncodeChar
  simp only [htoNat]
  generalize c.toNat = n at *
  have htwo : n / 4096 = n / 64 / 64 := by omega
  have hthree : n / 262144 = n / 64 / 64 / 64 := by omega
  split_ifs
  · rfl
  · rw [Nat.mod_eq_of_lt (by omega : n / 64 < 0x20)]
    rfl
  · rw [Nat.mod_eq_of_lt (by omega : n / 4096 < 0x10), htwo]
    rfl
  · rw [Nat.mod_eq_of_lt (by omega : n / 262144 < 0x08), htwo, hthree]
    rfl

theorem le_toNat_of_mem_spread (hfirst : 0x80 ≤ first) (hn : n / 64 ^ k + first < 256) {b : UInt8}
    (h : b ∈ spread first k n) : 0x80 ≤ b.toNat := by
  induction k generalizing n with
  | zero =>
    obtain rfl := List.mem_singleton.mp h
    have hlt : n + first < 256 := by simpa using hn
    rw [UInt8.toNat_ofNat_of_lt' hlt]
    omega
  | succ k ih =>
    rcases List.mem_append.mp h with h | h
    · refine ih ?_ h
      rwa [Nat.div_div_eq_div_mul, ← Nat.pow_succ']
    · obtain rfl := List.mem_singleton.mp h
      have hlt : n % 64 + 0x80 < 256 := by omega
      rw [UInt8.toNat_ofNat_of_lt' hlt]
      omega

/-- A byte below 128 stands in no character but its own. -/
theorem toNat_eq_of_mem_utf8EncodeChar {b : UInt8} {c : Char} (h : b ∈ String.utf8EncodeChar c)
    (hb : b.toNat < 0x80) : b.toNat = c.toNat := by
  have hmax := toNat_lt c
  rw [utf8EncodeChar_eq] at h
  split_ifs at h
  · obtain rfl := List.mem_singleton.mp h
    have hlt : c.toNat + 0 < 256 := by omega
    exact UInt8.toNat_ofNat_of_lt' hlt
  all_goals
    have hle := le_toNat_of_mem_spread (by decide) (by omega) h
    omega

/-- A character of a lower code point has lower bytes. -/
theorem below_utf8EncodeChar {c d : Char} (h : c < d) :
    Below (String.utf8EncodeChar c) (String.utf8EncodeChar d) := by
  have hlt : c.toNat < d.toNat := h
  have hmax := toNat_lt d
  rw [utf8EncodeChar_eq, utf8EncodeChar_eq]
  generalize c.toNat = m at *
  generalize d.toNat = n at *
  -- Characters in more bytes have higher first bytes.
  split_ifs
  all_goals try omega
  · exact below_spread hlt (by omega)
  · exact below_of_first (by omega) (by omega)
  · exact below_of_first (by omega) (by omega)
  · exact below_of_first (by omega) (by omega)
  · exact below_spread hlt (by omega)
  · exact below_of_first (by omega) (by omega)
  · exact below_of_first (by omega) (by omega)
  · exact below_spread hlt (by omega)
  · exact below_of_first (by omega) (by omega)
  · exact below_spread hlt (by omega)

theorem flatMap_utf8EncodeChar_lt {cs ds : List Char} (h : cs < ds) :
    cs.flatMap String.utf8EncodeChar < ds.flatMap String.utf8EncodeChar := by
  induction cs generalizing ds with
  | nil =>
    cases ds with
    | nil => exact absurd h (List.lt_irrefl _)
    | cons d ds =>
      obtain ⟨b, bs, hbs⟩ := List.exists_cons_of_ne_nil (String.utf8EncodeChar_ne_nil (c := d))
      rw [List.flatMap_cons, hbs]
      exact List.nil_lt_cons _ _
  | cons c cs ih =>
    cases ds with
    | nil => exact absurd h (List.not_lt_nil _)
    | cons d ds =>
      rw [List.flatMap_cons, List.flatMap_cons]
      rcases List.cons_lt_cons_iff.mp h with hlt | ⟨rfl, hlt⟩
      · exact below_utf8EncodeChar hlt _ _
      · exact List.append_left_lt (ih hlt)

/-- The order of texts is the order of their bytes. -/
theorem encode_lt_encode {s t : String} : encode s < encode t ↔ s < t := by
  have hmono : ∀ {s t : String}, s < t → encode s < encode t := by
    intro s t h
    rw [encode_eq, encode_eq]
    exact flatMap_utf8EncodeChar_lt h
  refine ⟨fun h => ?_, hmono⟩
  by_contra hlt
  rcases Std.le_iff_lt_or_eq.mp (Std.not_lt.mp hlt) with hgt | rfl
  · exact List.lt_asymm h (hmono hgt)
  · exact List.lt_irrefl _ h

end Order

end AspectQuery.Utf8
