import AspectQuery.Proofs.Coercion
import AspectQuery.Proofs.Predicate.Parameters
import AspectQuery.Proofs.Text.Utf8
import AspectQuery.Store.Stored
/-!
# What a database gives back

A database forgets what kind of value it was given, and the declared type tells it again. What a
database holds is asked for as it is held, except for ids. These are read from blobs and from texts
in any spelling, but asked for in a single one.
-/

set_option autoImplicit false

namespace AspectQuery

def Value.isNaN : Value → Bool
  | .float x => x.isNaN
  | _ => false

namespace Stored

/-- The values that are read from a database. -/
inductive Gives : Stored → Value → Prop
  | null : Gives .null .null
  | integer (i : Int64) : Gives (.integer i) (.integer i)
  | real (x : Binary64) : Gives (.real x) (.float x)
  | text (s : String) : Gives (.text (Utf8.encode s)) (.text s)
  | blob {bytes : List UInt8} {item : ItemId} (h : ItemId.ofBytes? bytes = some item) :
      Gives (.blob bytes) (.id item)

variable {x : Stored} {v w : Value} {t : ValueType} {item : ItemId} {column : String}

theorem gives_of_value (h : x.value column = .ok v) : x.Gives v := by
  cases x with
  | null =>
    obtain rfl := Except.ok.inj h
    exact .null
  | integer i =>
    obtain rfl := Except.ok.inj h
    exact .integer i
  | real y =>
    obtain rfl := Except.ok.inj h
    exact .real y
  | text bytes =>
    rw [value] at h
    split at h
    · rename_i s hs
      obtain rfl := Except.ok.inj h
      obtain rfl := Utf8.decode_eq_ok.mp hs
      exact .text s
    · cases h
  | blob bytes =>
    rw [value] at h
    split at h
    · rename_i item hitem
      obtain rfl := Except.ok.inj h
      exact .blob hitem
    · cases h

theorem Gives.value (h : x.Gives v) (column : String) : x.value column = .ok v := by
  cases h with
  | null => rfl
  | integer => rfl
  | real => rfl
  | text s => rw [Stored.value, Utf8.decode_eq_ok.mpr rfl]
  | blob h => rw [Stored.value, h]

/-- All that is read, and from what. -/
theorem value_eq_ok_iff : x.value column = .ok v ↔ x.Gives v :=
  ⟨gives_of_value, fun h => h.value column⟩

/-- The declared type tells what kind of value was put into the database. -/
theorem gives_of_coerces (h : Value.Coerces t v w) (hw : w.isNaN = false) :
    ∃ u, (ofValue w).Gives u ∧ Value.Coerces t u w := by
  have hagain := h.again
  cases w with
  | null => exact ⟨.null, .null, hagain⟩
  | boolean b =>
    obtain rfl := Option.some.inj (h.type?_eq (by simp))
    exact ⟨.integer (if b then 1 else 0), .integer _, .truth b⟩
  | integer i => exact ⟨.integer i, .integer i, hagain⟩
  | float y =>
    have hreal : ofValue (.float y) = .real y := if_neg (by simpa [Value.isNaN] using hw)
    exact ⟨.float y, hreal ▸ .real y, hagain⟩
  | text s => exact ⟨.text s, .text s, hagain⟩
  | id item =>
    obtain rfl := Option.some.inj (h.type?_eq (by simp))
    exact ⟨.text item.text, .text item.text, .readId item.spells_text⟩

/-- A coerced value that is put into a database is read from it again, in the type to which it was
coerced. -/
theorem typed_value_returns (h : v.coerce t = .ok w) (hw : w.isNaN = false) (column : String) :
    ∃ u, (ofValue w).value column = .ok u ∧ u.coerce t = .ok w ∧
      ∀ r : Row, r.get? column = some u →
        (∀ target : Attribute, target.valueType = t → r.attributeValue target column = .ok w) ∧
          ∀ item, w = .id item → r.itemId column = .ok item := by
  obtain ⟨u, hu, hcoerces⟩ := gives_of_coerces (Value.coerce_eq_ok_iff.mp h) hw
  have hread := Value.coerce_eq_ok_iff.mpr hcoerces
  refine ⟨u, hu.value column, hread, fun r hr => ⟨?_, ?_⟩⟩
  · rintro target rfl
    exact Row.attributeValue_eq_ok.mpr ⟨u, hr, hread⟩
  · rintro item rfl
    obtain rfl := Option.some.inj (hcoerces.type?_eq (by simp))
    exact Row.itemId_eq_ok.mpr ⟨u, hr, hread⟩

/-- A truth value is held as an integer. -/
theorem typed_value_returns_true :
    let w := Value.boolean true
    (Value.integer 1).coerce .boolean = .ok w ∧ w.isNaN = false ∧ ofValue w = .integer 1 ∧
      ∃ u, (ofValue w).value "A0" = .ok u ∧ u.coerce .boolean = .ok w ∧
        ∀ r : Row, r.get? "A0" = some u → ∀ target : Attribute, target.valueType = .boolean →
          r.attributeValue target "A0" = .ok w := by
  intro w
  have h : (Value.integer 1).coerce .boolean = .ok w := rfl
  obtain ⟨u, hvalue, hcoerce, hrows⟩ := typed_value_returns h rfl "A0"
  exact ⟨h, rfl, rfl, u, hvalue, hcoerce, fun r hr => (hrows r hr).1⟩

section Ids

/-- All values but ids are asked for as they are held. -/
theorem Gives.ofValue_eq_iff (h : x.Gives v) (hv : v.isNaN = false) :
    ofValue v = x ↔ ∀ bytes, x ≠ .blob bytes := by
  cases h with
  | null => simp [ofValue]
  | integer => simp [ofValue]
  | real => simpa [ofValue, Value.isNaN] using hv
  | text => simp [ofValue]
  | blob => simp [ofValue]

/-- What holds an id is a text that spells it, or its bytes. -/
def HoldsId (x : Stored) (item : ItemId) : Prop :=
  (∃ s, item.Spells s ∧ x = .text (Utf8.encode s)) ∨
    ∃ bytes, ItemId.ofBytes? bytes = some item ∧ x = .blob bytes

theorem Gives.holdsId (h : x.Gives v) (hv : v.coerce .id = .ok (.id item)) : x.HoldsId item := by
  have hcoerces := Value.coerce_eq_ok_iff.mp hv
  cases h with
  | null => cases hcoerces
  | integer => cases hcoerces
  | real => cases hcoerces
  | text s =>
    cases hcoerces with
    | readId hs => exact .inl ⟨s, hs, rfl⟩
  | blob hitem =>
    cases hcoerces with
    | keep => exact .inr ⟨_, hitem, rfl⟩

/-- An id is asked for as a text in small letters with hyphens. -/
def asked (item : ItemId) : Stored := .text (Utf8.encode item.text)

theorem eq_of_holdsId_asked {other : ItemId} (h : (asked other).HoldsId item) : other = item := by
  rcases h with ⟨s, hs, heq⟩ | ⟨bytes, -, heq⟩
  · obtain rfl := Utf8.encode_inj.mp (text.inj heq)
    exact Option.some.inj ((ItemId.ofText?_text other).symm.trans (ItemId.ofText?_eq_some.mpr hs))
  · cases heq

theorem mem_params_itemIds {schema : Schema} {options : Options} {ids : List ItemId}
    {ms ms' : Mentions} {p : Predicate} (hx : x.HoldsId item) (hitem : item ∈ ids)
    (h : Predicate.ofFilter schema options (.itemIds ids) ms = .ok (p, ms')) :
    x ∈ p.params.map ofValue ↔ x = asked item := by
  rw [(Predicate.params_ofFilter _ h).1, Filter.parameters, List.map_map, List.mem_map]
  constructor
  · rintro ⟨other, -, rfl⟩
    exact congrArg asked (eq_of_holdsId_asked hx)
  · rintro rfl
    exact ⟨item, hitem, rfl⟩

/-- What is read from a database is asked for as it is held, unless it is read from a blob. An id
that is read, by itself or among others, is asked for as it is held if and only if this is a text in
small letters with hyphens. -/
theorem asked_as_held_iff (h : x.value column = .ok v) (hv : v.isNaN = false) :
    (ofValue v = x ↔ ∀ bytes, x ≠ .blob bytes) ∧
      ∀ (r : Row) (item : ItemId), r.get? column = some v → r.itemId column = .ok item →
        x.HoldsId item ∧
          (∀ (schema : Schema) (options : Options) (ids : List ItemId) (ms ms' : Mentions)
            (p : Predicate), item ∈ ids →
              Predicate.ofFilter schema options (.itemIds ids) ms = .ok (p, ms') →
              (x ∈ p.params.map ofValue ↔ x = asked item)) ∧
          ∀ q : ItemQuery, (q.only item).predicate.params = q.predicate.params ++ [.id item] ∧
            (ofValue (.id item) = x ↔ x = asked item) := by
  have hgives := value_eq_ok_iff.mp h
  refine ⟨hgives.ofValue_eq_iff hv, fun r item hr hid => ?_⟩
  obtain ⟨u, hu, hcoerce⟩ := Row.itemId_eq_ok.mp hid
  obtain rfl := Option.some.inj (hr.symm.trans hu)
  have hx := hgives.holdsId hcoerce
  refine ⟨hx, ?_, fun q => ?_⟩
  · intro schema options ids ms ms' p hitem hp
    exact mem_params_itemIds hx hitem hp
  · exact ⟨Predicate.params_conjoin_itemIds q.predicate q.options item, eq_comm⟩

/-- An id in capital letters is read, but asked for in small ones. -/
theorem asked_as_held_iff_capitals :
    let s := "10000000-0000-4000-8000-00000000000A"
    let x := Stored.text (Utf8.encode s)
    let item : ItemId :=
      ⟨[1] ++ List.replicate 11 0 ++ [4, 0, 0, 0, 8] ++ List.replicate 14 0 ++ [10], rfl⟩
    let row : Row := ⟨["A0"], [.text s]⟩
    x.value "A0" = .ok (.text s) ∧ (Value.text s).isNaN = false ∧ row.itemId "A0" = .ok item ∧
      ofValue (.text s) = x ∧ ∀ q : ItemQuery,
        (q.only item).predicate.params = q.predicate.params ++ [.id item] ∧
          ofValue (.id item) ≠ x := by
  intro s x item row
  have hvalue : x.value "A0" = .ok (.text s) := (Gives.text s).value "A0"
  have hspells : item.Spells s := by
    unfold ItemId.Spells
    decide +kernel
  have hid : row.itemId "A0" = .ok item :=
    Row.itemId_eq_ok.mpr ⟨_, rfl, Value.coerce_eq_ok_iff.mpr (.readId hspells)⟩
  obtain ⟨hx, hids⟩ := asked_as_held_iff hvalue rfl
  obtain ⟨-, -, honly⟩ := hids row item rfl hid
  have hne : x ≠ asked item := fun h =>
    absurd (Utf8.encode_inj.mp (text.inj h)) (by decide +kernel)
  refine ⟨hvalue, rfl, hid, hx.mpr (by simp [x]), fun q => ⟨(honly q).1, fun h => ?_⟩⟩
  exact hne ((honly q).2.mp h)

/-- A blob of 16 bytes is read as an id, which is asked for as a text. -/
theorem blob_not_asked_as_held : ∃ item, (blob (List.replicate 16 0)).value "A0" = .ok (.id item) ∧
    ofValue (.id item) ≠ blob (List.replicate 16 0) :=
  ⟨⟨List.replicate 32 0, rfl⟩, rfl, nofun⟩

end Ids

end Stored

end AspectQuery
