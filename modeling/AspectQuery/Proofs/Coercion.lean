import AspectQuery.Predicate
import AspectQuery.Proofs.ItemId
import AspectQuery.Proofs.Number.Whole
import AspectQuery.Proofs.Query.Hydration
/-!
# What coercion keeps

A coerced value stands for what the value stood for, except that an integer of more than 53 bits may
be rounded when it becomes a floating-point number.
-/

set_option autoImplicit false

namespace AspectQuery

namespace Value

def type? : Value → Option ValueType
  | .null => none
  | .boolean _ => some .boolean
  | .integer _ => some .integer
  | .float _ => some .float
  | .text _ => some .string
  | .id _ => some .id

/-- The ways to become a value of a type. -/
inductive Coerces : ValueType → Value → Value → Prop
  | null (t : ValueType) : Coerces t .null .null
  | keep {v : Value} {t : ValueType} (h : v.type? = some t) : Coerces t v v
  | number (i : Int64) : Coerces .float (.integer i) (.float (.ofInt i.toInt))
  | truth (b : Bool) : Coerces .boolean (.integer (if b then 1 else 0)) (.boolean b)
  | readId {s : String} {item : ItemId} (h : item.Spells s) : Coerces .id (.text s) (.id item)
  | writeId (item : ItemId) : Coerces .string (.id item) (.text item.text)

/-- Two values stand for the same number, truth value, text or id. -/
inductive SameDatum : Value → Value → Prop
  | refl (v : Value) : SameDatum v v
  | number {i : Int64} {x : Binary64} (hfinite : x.isFinite) (hvalue : x.value = i.toInt) :
      SameDatum (.integer i) (.float x)
  | truth (b : Bool) : SameDatum (.integer (if b then 1 else 0)) (.boolean b)
  | readId {s : String} {item : ItemId} (h : item.Spells s) : SameDatum (.text s) (.id item)
  | writtenId {s : String} {item : ItemId} (h : item.Spells s) : SameDatum (.id item) (.text s)

variable {v w : Value} {t : ValueType}

theorem coerces_of_coerce (h : v.coerce t = .ok w) : Coerces t v w := by
  cases v with
  | null =>
    obtain rfl := Except.ok.inj h
    exact .null t
  | boolean b =>
    cases t <;> simp only [coerce, reduceCtorEq] at h
    obtain rfl := Except.ok.inj h
    exact .keep rfl
  | integer i =>
    cases t <;> simp only [coerce, reduceCtorEq] at h
    · obtain rfl := Except.ok.inj h
      exact .keep rfl
    · obtain rfl := Except.ok.inj h
      exact .number i
    · split at h
      · subst i
        obtain rfl := Except.ok.inj h
        exact .truth false
      · split at h
        · subst i
          obtain rfl := Except.ok.inj h
          exact .truth true
        · cases h
  | float x =>
    cases t <;> simp only [coerce, reduceCtorEq] at h
    obtain rfl := Except.ok.inj h
    exact .keep rfl
  | text s =>
    cases t <;> simp only [coerce, reduceCtorEq] at h
    · obtain rfl := Except.ok.inj h
      exact .keep rfl
    · split at h
      · rename_i item hitem
        obtain rfl := Except.ok.inj h
        exact .readId (ItemId.ofText?_eq_some.mp hitem)
      · cases h
  | id item =>
    cases t <;> simp only [coerce, reduceCtorEq] at h
    · obtain rfl := Except.ok.inj h
      exact .writeId item
    · obtain rfl := Except.ok.inj h
      exact .keep rfl

theorem Coerces.coerce (h : Coerces t v w) : v.coerce t = .ok w := by
  cases h with
  | null => rfl
  | keep h => cases v <;> cases h <;> rfl
  | number => rfl
  | truth b => cases b <;> rfl
  | readId h => rw [Value.coerce, ItemId.ofText?_eq_some.mpr h]
  | writeId => rfl

/-- All that coercion does. -/
theorem coerce_eq_ok_iff : v.coerce t = .ok w ↔ Coerces t v w :=
  ⟨coerces_of_coerce, Coerces.coerce⟩

namespace Coerces

theorem null_iff (h : Coerces t v w) : w = .null ↔ v = .null := by
  cases h <;> simp

theorem type?_eq (h : Coerces t v w) (hw : w ≠ .null) : w.type? = some t := by
  cases h with
  | null => exact absurd rfl hw
  | keep h => exact h
  | _ => rfl

/-- Coerced values are kept. -/
theorem again (h : Coerces t v w) : Coerces t w w := by
  by_cases hw : w = .null
  · rw [hw]
    exact .null t
  · exact .keep (h.type?_eq hw)

end Coerces

theorem log2_natAbs_toInt (i : Int64) : i.toInt.natAbs.log2 < 1023 := by
  have hlt : i.toInt.natAbs < 2 ^ 64 := by
    have hlower := i.le_toInt
    have hupper := i.toInt_lt
    omega
  rcases eq_or_ne i.toInt.natAbs 0 with hzero | hne
  · rw [hzero]
    decide
  · have hlog : i.toInt.natAbs.log2 < 64 := (Nat.log2_lt hne).mpr hlt
    omega

theorem sameDatum_ofInt {i : Int64} :
    (Value.integer i).SameDatum (.float (.ofInt i.toInt)) ↔ Representable i.toInt := by
  have hlog := log2_natAbs_toInt i
  rw [← Binary64.value_ofInt_eq_iff hlog]
  refine ⟨fun h => ?_, fun h => .number (Binary64.isFinite_ofInt hlog) h⟩
  cases h with
  | number _ hvalue => exact hvalue

/-- Only an integer becomes another number. -/
theorem Coerces.sameDatum_iff (h : Coerces t v w) :
    v.SameDatum w ↔ ∀ i, v = .integer i → t = .float → Representable i.toInt := by
  cases h with
  | null => exact iff_of_true (.refl _) (by simp)
  | keep h =>
    refine iff_of_true (.refl _) ?_
    rintro i rfl rfl
    cases h
  | number i => simp [sameDatum_ofInt]
  | truth b => exact iff_of_true (.truth b) (by simp)
  | readId h => exact iff_of_true (.readId h) (by simp)
  | writeId item => exact iff_of_true (.writtenId item.spells_text) (by simp)

theorem SameDatum.of_integer {i : Int64} (h : (Value.integer i).SameDatum w) :
    w = .integer i ∨ (∃ x, w = .float x ∧ x.value = i.toInt) ∨
      ∃ b, w = .boolean b ∧ i = if b then 1 else 0 := by
  generalize hv : Value.integer i = v at h
  cases h with
  | refl =>
    subst hv
    exact .inl rfl
  | number _ hvalue =>
    obtain rfl := integer.inj hv
    exact .inr (.inl ⟨_, rfl, hvalue⟩)
  | truth b => exact .inr (.inr ⟨b, rfl, integer.inj hv⟩)
  | readId => cases hv
  | writtenId => cases hv

theorem SameDatum.integer_inj {i j : Int64} (hi : (Value.integer i).SameDatum w)
    (hj : (Value.integer j).SameDatum w) : i = j := by
  rcases hi.of_integer with rfl | ⟨x, rfl, hx⟩ | ⟨b, rfl, hb⟩
  · cases hj
    rfl
  · cases hj with
    | number _ hx' => exact Int64.toInt_inj.mp (by exact_mod_cast hx.symm.trans hx')
  · rcases hj.of_integer with hj | ⟨_, hj, -⟩ | ⟨c, hj, hc⟩
    · cases hj
    · cases hj
    · obtain rfl := boolean.inj hj
      exact hb.trans hc.symm

/-- Integers that are not rounded stay different. -/
theorem coerce_integer_inj {i j : Int64} (hi : (Value.integer i).coerce t = .ok w)
    (hj : (Value.integer j).coerce t = .ok w)
    (hbits : t = .float → Representable i.toInt ∧ Representable j.toInt) : i = j := by
  refine SameDatum.integer_inj ((coerce_eq_ok_iff.mp hi).sameDatum_iff.mpr ?_)
    ((coerce_eq_ok_iff.mp hj).sameDatum_iff.mpr ?_)
  · rintro _ hi ht
    obtain rfl := integer.inj hi
    exact (hbits ht).1
  · rintro _ hj ht
    obtain rfl := integer.inj hj
    exact (hbits ht).2

/-- A coerced value is of the type, is kept by the type and stands for what the value stands for,
unless an integer becomes a floating-point number of fewer bits. -/
theorem coercion_lossless (h : v.coerce t = .ok w) :
    (w = .null ↔ v = .null) ∧ (w ≠ .null → w.type? = some t) ∧ w.coerce t = .ok w ∧
      (v.SameDatum w ↔ ∀ i, v = .integer i → t = .float → Representable i.toInt) ∧
      ∀ i j, v = .integer i → (Value.integer j).coerce t = .ok w →
        (t = .float → Representable i.toInt ∧ Representable j.toInt) → i = j := by
  have hw := coerce_eq_ok_iff.mp h
  refine ⟨hw.null_iff, hw.type?_eq, coerce_eq_ok_iff.mpr hw.again, hw.sameDatum_iff, ?_⟩
  rintro i j rfl hj hbits
  exact coerce_integer_inj h hj hbits

theorem coercion_lossless_three : (Value.integer 3).coerce .float = .ok (.float (.ofInt 3)) ∧
    (Value.integer 3).SameDatum (.float (.ofInt 3)) := by
  have h : (Value.integer 3).coerce .float = .ok (.float (.ofInt 3)) := rfl
  refine ⟨h, (coercion_lossless h).2.2.2.1.mpr ?_⟩
  rintro _ hi -
  obtain rfl := integer.inj hi
  exact ⟨3, 0, by decide, rfl⟩

/-- The first integer that is rounded becomes the number that its predecessor is. -/
theorem coercion_rounds : ∃ w, (Value.integer 9007199254740993).coerce .float = .ok w ∧
    (Value.integer 9007199254740992).coerce .float = .ok w ∧
      ¬ (Value.integer 9007199254740993).SameDatum w := by
  have hround : Binary64.ofInt (Int64.toInt 9007199254740992) =
      Binary64.ofInt (Int64.toInt 9007199254740993) := by decide +kernel
  refine ⟨_, rfl, congrArg (fun x => Except.ok (float x)) hround, ?_⟩
  rw [sameDatum_ofInt]
  have hi : Int64.toInt 9007199254740993 = 9007199254740993 := by decide
  have hlog : Nat.log2 9007199254740993 = 53 := by decide +kernel
  rw [hi, representable_iff (by decide)]
  simp [hlog]

end Value

variable {target : Attribute} {i j : Int64} {w : Value}

theorem Attribute.filterValue_integer_inj (hi : target.filterValue (.integer i) = .ok w)
    (hj : target.filterValue (.integer j) = .ok w)
    (hbits : target.valueType = .float → Representable i.toInt ∧ Representable j.toInt) : i = j :=
  Value.coerce_integer_inj (mapError_eq_ok.mp hi) (mapError_eq_ok.mp hj) hbits

theorem Row.attributeValue_integer_inj {r r' : Row} {column column' : String}
    (hi : r.get? column = some (.integer i)) (hj : r'.get? column' = some (.integer j))
    (h : r.attributeValue target column = .ok w) (h' : r'.attributeValue target column' = .ok w)
    (hbits : target.valueType = .float → Representable i.toInt ∧ Representable j.toInt) :
    i = j := by
  obtain ⟨_, hv, hw⟩ := attributeValue_eq_ok.mp h
  obtain ⟨_, hv', hw'⟩ := attributeValue_eq_ok.mp h'
  obtain rfl := Option.some.inj (hi.symm.trans hv)
  obtain rfl := Option.some.inj (hj.symm.trans hv')
  exact Value.coerce_integer_inj hw hw' hbits

end AspectQuery
