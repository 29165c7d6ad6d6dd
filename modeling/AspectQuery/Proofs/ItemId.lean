import AspectQuery.ItemId
import AspectQuery.Proofs.Text.Ascii
/-!
# The spellings of an item id

A text is read as an id if and only if it spells the digits of the id in one of four forms, in any
letter case.
-/

set_option autoImplicit false

namespace AspectQuery.ItemId

/-- The digits with no hyphens. -/
def plainForm (item : ItemId) : List Char := item.digits.map digitChar

def hyphenatedForm (item : ItemId) : List Char := grouped groupSizes item.plainForm

def bracedForm (item : ItemId) : List Char := '\x7b' :: (item.hyphenatedForm ++ ['\x7d'])

def urnForm (item : ItemId) : List Char := urnScheme ++ item.hyphenatedForm

def forms (item : ItemId) : List (List Char) :=
  [item.plainForm, item.hyphenatedForm, item.bracedForm, item.urnForm]

/-- The forms are written in small letters. -/
def Spells (item : ItemId) (s : String) : Prop := s.toList.map Char.toLower ∈ item.forms

theorem digitOf?_ascii : ∀ (n : Fin 128) (d : Fin 16), digitOf? (Char.ofNat n) = some d ↔
    (Char.ofNat n).toLower = digitChar d := by
  decide +kernel

theorem toNat_digitChar (d : Fin 16) : (digitChar d).toNat < 128 := by
  revert d
  decide

theorem digitOf?_eq_some {c : Char} {d : Fin 16} :
    digitOf? c = some d ↔ c.toLower = digitChar d := by
  by_cases hc : c.toNat < 128
  · simpa [Char.ofNat_toNat] using digitOf?_ascii ⟨c.toNat, hc⟩ d
  · have hval : 128 ≤ c.val.toNat := Nat.le_of_not_lt hc
    have hlower : c.toLower = c := by
      apply Ascii.toLower_eq_self
      rw [Bool.eq_false_iff, Ne, Ascii.isUpper_iff]
      omega
    have hnone : Json.hexDigit? c = none := by
      have hdigit : c.isDigit = false := by
        simp [Char.isDigit, UInt32.le_iff_toNat_le]
        omega
      have hsmall : ¬ ('a' ≤ c ∧ c ≤ 'f') := by
        simp [Char.le_def, UInt32.le_iff_toNat_le]
        omega
      have hcapital : ¬ ('A' ≤ c ∧ c ≤ 'F') := by
        simp [Char.le_def, UInt32.le_iff_toNat_le]
        omega
      simp [Json.hexDigit?, hdigit, hsmall, hcapital]
    rw [digitOf?, hnone, hlower]
    refine iff_of_false (by simp) fun heq => ?_
    exact hc (heq ▸ toNat_digitChar d)

theorem mapM_digitOf?_eq_some {cs : List Char} {ds : List (Fin 16)} :
    cs.mapM digitOf? = some ds ↔ cs.map Char.toLower = ds.map digitChar := by
  induction cs generalizing ds with
  | nil => cases ds <;> simp
  | cons c cs ih =>
    cases ds with
    | nil => simp [List.mapM_cons, Option.bind_eq_some_iff]
    | cons d ds => simp [List.mapM_cons, Option.bind_eq_some_iff, digitOf?_eq_some, ih]

theorem ofHexChars?_eq_some {cs : List Char} {item : ItemId} :
    ofHexChars? cs = some item ↔ cs.map Char.toLower = item.plainForm := by
  obtain ⟨ds, hds⟩ := item
  simp only [ofHexChars?, ofDigits?, Option.bind_eq_some_iff, mapM_digitOf?_eq_some, plainForm]
  constructor
  · rintro ⟨es, hes, h⟩
    split at h
    · obtain rfl := congrArg digits (Option.some.inj h)
      exact hes
    · cases h
  · intro h
    exact ⟨ds, h, dif_pos hds⟩

theorem ungrouped?_eq_some {sizes : List Nat} {cs ds : List Char} :
    ungrouped? sizes cs = some ds ↔
      sizes.foldr Nat.add 0 ≤ ds.length ∧ grouped sizes ds = cs := by
  refine ⟨fun h => ?_, fun ⟨hle, h⟩ => h ▸ ungrouped?_grouped sizes ds hle⟩
  induction sizes generalizing cs ds with
  | nil => exact ⟨Nat.zero_le _, (Option.some.inj h).symm⟩
  | cons n sizes ih =>
    rw [ungrouped?] at h
    split at h
    · rename_i rest hdrop
      obtain ⟨es, hes, rfl⟩ := Option.map_eq_some_iff.mp h
      obtain ⟨hle, rfl⟩ := ih hes
      have hlength := congrArg List.length hdrop
      simp only [List.length_drop, List.length_cons] at hlength
      have htake : (cs.take n).length = n := List.length_take_of_le (by omega)
      refine ⟨?_, ?_⟩
      · rw [List.foldr_cons, List.length_append, htake]
        exact Nat.add_le_add_left hle n
      · rw [grouped, List.take_left' htake, List.drop_left' htake, ← hdrop, List.take_append_drop]
    · cases h

theorem map_grouped {f : Char → Char} (hf : f '-' = '-') (sizes : List Nat) (cs : List Char) :
    (grouped sizes cs).map f = grouped sizes (cs.map f) := by
  induction sizes generalizing cs with
  | nil => rfl
  | cons n sizes ih => simp [grouped, ih, hf]

theorem exists_grouped_of_map {f : Char → Char} (hf : ∀ c, f c = '-' → c = '-')
    {sizes : List Nat} {cs es : List Char} (hle : sizes.foldr Nat.add 0 ≤ es.length)
    (h : cs.map f = grouped sizes es) : ∃ ds, grouped sizes ds = cs ∧ ds.map f = es := by
  induction sizes generalizing cs es with
  | nil => exact ⟨cs, rfl, h⟩
  | cons n sizes ih =>
    rw [List.foldr_cons, Nat.add_eq] at hle
    rw [grouped] at h
    obtain ⟨as, _, rfl, has, hrest⟩ := List.map_eq_append_iff.mp h
    obtain ⟨c, bs, rfl, hc, hbs⟩ := List.map_eq_cons_iff.mp hrest
    obtain ⟨ds, rfl, hds⟩ := ih (by rw [List.length_drop]; omega) hbs
    obtain rfl := hf c hc
    have hlength : as.length = n := by
      rw [← List.length_map (f := f), has]
      exact List.length_take_of_le (by omega)
    refine ⟨as ++ ds, ?_, ?_⟩
    · rw [grouped, List.take_left' hlength, List.drop_left' hlength]
    · rw [List.map_append, has, hds, List.take_append_drop]

theorem toLower_eq_iff {c d : Char} (hd : d.isAlpha = false) : c.toLower = d ↔ c = d := by
  obtain ⟨hupper, hlower⟩ := Bool.or_eq_false_iff.mp hd
  cases hc : c.isUpper with
  | false => rw [Ascii.toLower_eq_self hc]
  | true =>
    refine iff_of_false ?_ ?_
    · rintro rfl
      simp [Ascii.isLower_toLower hc] at hlower
    · rintro rfl
      simp [hc] at hupper

theorem length_plainForm (item : ItemId) : item.plainForm.length = 32 := by
  simp [plainForm, item.length_eq]

theorem sum_groupSizes_le (item : ItemId) :
    groupSizes.foldr Nat.add 0 ≤ item.plainForm.length := by
  rw [length_plainForm]
  decide

theorem ofHyphenated?_eq_some {cs : List Char} {item : ItemId} :
    ofHyphenated? cs = some item ↔ cs.map Char.toLower = item.hyphenatedForm := by
  have hle := item.sum_groupSizes_le
  simp only [ofHyphenated?, Option.bind_eq_some_iff, ofHexChars?_eq_some, ungrouped?_eq_some]
  constructor
  · rintro ⟨ds, ⟨-, rfl⟩, hds⟩
    rw [map_grouped rfl, hds, hyphenatedForm]
  · intro h
    obtain ⟨ds, hcs, hds⟩ := exists_grouped_of_map (fun _ => (toLower_eq_iff rfl).mp) hle h
    have hlength : ds.length = item.plainForm.length := by rw [← hds, List.length_map]
    exact ⟨ds, ⟨hlength ▸ hle, hcs⟩, hds⟩

theorem length_hyphenatedForm (item : ItemId) : item.hyphenatedForm.length = 36 := by
  rw [hyphenatedForm, length_grouped _ _ item.sum_groupSizes_le, length_plainForm]
  rfl

theorem length_bracedForm (item : ItemId) : item.bracedForm.length = 38 := by
  simp [bracedForm, length_hyphenatedForm]

theorem length_urnScheme : urnScheme.length = 9 := rfl

theorem length_urnForm (item : ItemId) : item.urnForm.length = 45 := by
  rw [urnForm, List.length_append, length_hyphenatedForm, length_urnScheme]

theorem ofBraced?_eq_some {cs : List Char} (hcs : cs.length = 38) {item : ItemId} :
    ofChars? cs = some item ↔ cs.map Char.toLower = item.bracedForm := by
  obtain ⟨c, rest, rfl⟩ := List.exists_cons_of_length_eq_add_one hcs
  have hrest : rest ≠ [] := fun h => by simp [h] at hcs
  obtain ⟨mid, d, rfl⟩ : ∃ mid d, rest = mid ++ [d] :=
    ⟨_, _, (List.dropLast_concat_getLast hrest).symm⟩
  have hlast : (c :: (mid ++ [d])).getLast? = some d := by
    rw [← List.cons_append, List.getLast?_concat]
  have hchars : ofChars? (c :: (mid ++ [d])) =
      if c = '\x7b' ∧ d = '\x7d' then ofHyphenated? mid else none := by
    simp [ofChars?, hcs, hlast]
  have hform : (c :: (mid ++ [d])).map Char.toLower = item.bracedForm ↔
      c = '\x7b' ∧ mid.map Char.toLower = item.hyphenatedForm ∧ d = '\x7d' := by
    rw [bracedForm, List.map_cons, List.map_append, List.cons.injEq, List.map_singleton,
      List.append_singleton_inj, toLower_eq_iff rfl, toLower_eq_iff rfl]
  rw [hchars, hform, ← ofHyphenated?_eq_some]
  split
  · rename_i h
    simp [h]
  · rename_i h
    simpa using fun hc _ hd => h ⟨hc, hd⟩

theorem ofUrn?_eq_some {cs : List Char} (hcs : cs.length = 45) {item : ItemId} :
    ofChars? cs = some item ↔ cs.map Char.toLower = item.urnForm := by
  have hlength : ((cs.take 9).map Char.toLower).length = urnScheme.length := by
    rw [List.length_map, List.length_take_of_le (by omega), length_urnScheme]
  have hform : cs.map Char.toLower = item.urnForm ↔
      (cs.take 9).map Char.toLower = urnScheme ∧ ofHyphenated? (cs.drop 9) = some item := by
    rw [ofHyphenated?_eq_some, urnForm]
    constructor
    · intro h
      rw [← List.take_append_drop 9 cs, List.map_append] at h
      exact List.append_inj h hlength
    · rintro ⟨hscheme, hrest⟩
      rw [← hscheme, ← hrest, ← List.map_append, List.take_append_drop]
  rw [hform]
  simp only [ofChars?, hcs]
  split
  · exact (and_iff_right ‹_›).symm
  · exact iff_of_false (by simp) fun h => ‹¬ _› h.1

/-- The length says which of the forms it is. -/
theorem ofText?_eq_some {s : String} {item : ItemId} : ofText? s = some item ↔ item.Spells s := by
  rw [ofText?, Spells, forms]
  generalize s.toList = cs
  simp only [List.mem_cons, List.not_mem_nil, or_false]
  constructor
  · intro h
    by_cases h38 : cs.length = 38
    · exact .inr (.inr (.inl ((ofBraced?_eq_some h38).mp h)))
    by_cases h45 : cs.length = 45
    · exact .inr (.inr (.inr ((ofUrn?_eq_some h45).mp h)))
    unfold ofChars? at h
    split at h
    · exact .inl (ofHexChars?_eq_some.mp h)
    · exact .inr (.inl (ofHyphenated?_eq_some.mp h))
    · exact absurd ‹_› h38
    · exact absurd ‹_› h45
    · cases h
  · have hlength : ∀ {form : List Char}, cs.map Char.toLower = form → cs.length = form.length :=
      fun h => by rw [← h, List.length_map]
    rintro (h | h | h | h)
    · rw [ofChars?, (hlength h).trans item.length_plainForm]
      exact ofHexChars?_eq_some.mpr h
    · rw [ofChars?, (hlength h).trans item.length_hyphenatedForm]
      exact ofHyphenated?_eq_some.mpr h
    · exact (ofBraced?_eq_some ((hlength h).trans item.length_bracedForm)).mpr h
    · exact (ofUrn?_eq_some ((hlength h).trans item.length_urnForm)).mpr h

theorem spells_text (item : ItemId) : item.Spells item.text :=
  ofText?_eq_some.mp (ofText?_text item)

end AspectQuery.ItemId
