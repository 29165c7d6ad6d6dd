import AspectQuery.Filter.Pattern
import AspectQuery.Proofs.Sql.Contents
import Mathlib.Data.List.Infix
/-!
# What patterns match

A pattern is read as a list of marks, which a text has to meet one after another. An escaped text is
read as its own characters. Escaping is of use in capitals where it makes no difference whether a
text is escaped before it is put into capitals or after.
-/

set_option autoImplicit false

namespace AspectQuery

namespace Pattern

inductive Mark where
  | char (c : Char)
  | anyChar
  | anyText
  deriving DecidableEq

/-- What a character stands for that is not escaped. -/
def mark (c : Char) : Mark :=
  if c = '%' then .anyText else if c = '_' then .anyChar else .char c

/-- The marks of a pattern. There are none if it ends with its escape character. -/
def marks? (escape : Option Char) : List Char → Option (List Mark)
  | [] => some []
  | [c] => if escape = some c then none else some [mark c]
  | c :: d :: cs =>
    if escape = some c then (marks? escape cs).map (.char d :: ·)
    else (marks? escape (d :: cs)).map (mark c :: ·)

def meets : List Mark → List Char → Bool
  | [], v => v.isEmpty
  | .char c :: ms, d :: v => c == d && meets ms v
  | .char _ :: _, [] => false
  | .anyChar :: ms, _ :: v => meets ms v
  | .anyChar :: _, [] => false
  | .anyText :: ms, v => v.tails.any (meets ms)

/-- The text is like the pattern, letter by letter. -/
def like (escape : Option Char) (pattern text : String) : Bool :=
  (marks? escape pattern.toList).any fun ms => meets ms text.toList

section Meeting

variable {c : Char} {ms : List Mark} {v : List Char}

@[simp] theorem meets_nil : meets [] v ↔ v = [] := by
  simp [meets]

@[simp] theorem meets_char : meets (.char c :: ms) v ↔ ∃ rest, v = c :: rest ∧ meets ms rest := by
  cases v with
  | nil => simp [meets]
  | cons d v =>
    simp only [meets, Bool.and_eq_true, beq_iff_eq, List.cons.injEq]
    constructor
    · rintro ⟨rfl, h⟩
      exact ⟨v, ⟨rfl, rfl⟩, h⟩
    · rintro ⟨rest, ⟨rfl, rfl⟩, h⟩
      exact ⟨rfl, h⟩

@[simp] theorem meets_anyChar :
    meets (.anyChar :: ms) v ↔ ∃ d rest, v = d :: rest ∧ meets ms rest := by
  cases v with
  | nil => simp [meets]
  | cons d v => simp [meets]

@[simp] theorem meets_anyText : meets (.anyText :: ms) v ↔ ∃ rest, rest <:+ v ∧ meets ms rest := by
  simp [meets]

theorem meets_chars_append (t : List Char) :
    meets (t.map .char ++ ms) v ↔ ∃ rest, v = t ++ rest ∧ meets ms rest := by
  induction t generalizing v with
  | nil => simp
  | cons c t ih =>
    rw [List.map_cons, List.cons_append, meets_char]
    constructor
    · rintro ⟨w, rfl, hw⟩
      obtain ⟨rest, rfl, hrest⟩ := ih.mp hw
      exact ⟨rest, rfl, hrest⟩
    · rintro ⟨rest, rfl, hrest⟩
      exact ⟨t ++ rest, rfl, ih.mpr ⟨rest, rfl, hrest⟩⟩

theorem meets_startingWith (t : List Char) : meets (t.map .char ++ [.anyText]) v ↔ t <+: v := by
  rw [meets_chars_append]
  constructor
  · rintro ⟨rest, rfl, -⟩
    exact List.prefix_append t rest
  · rintro ⟨rest, rfl⟩
    exact ⟨rest, rfl, meets_anyText.mpr ⟨[], List.nil_suffix, meets_nil.mpr rfl⟩⟩

end Meeting

section Prefixes

variable {P : Char → Prop}

/-- Marks that are met by all texts begin with no character and are not missing. -/
theorem eq_replicate_of_meets {ms : List Mark} (hP : ∃ d, P d)
    (h : ∀ v : List Char, (∀ c ∈ v, P c) → meets ms v) :
    ∃ n, ms = List.replicate (n + 1) .anyText := by
  have hall : ∀ ms : List Mark, meets ms [] → ms = List.replicate ms.length .anyText := by
    intro ms
    induction ms with
    | nil => intro _; rfl
    | cons m ms ih =>
      intro hmeets
      cases m with
      | char c => simp at hmeets
      | anyChar => simp at hmeets
      | anyText =>
        obtain ⟨rest, hrest, hms⟩ := meets_anyText.mp hmeets
        rw [List.suffix_nil] at hrest
        rw [List.length_cons, List.replicate_succ, ← ih (hrest ▸ hms)]
  obtain ⟨d, hd⟩ := hP
  have hms := hall ms (h [] (by simp))
  cases ms with
  | nil =>
    have hone := h [d] (by simpa using hd)
    simp at hone
  | cons m ms => exact ⟨ms.length, hms⟩

/-- Marks that are met by just what starts with a text are its characters, and then any text. It is
enough to know this of the texts whose characters have a property. -/
theorem eq_of_meets_iff_prefix (hP : ∀ c, ∃ d, P d ∧ d ≠ c) {u : List Char} (hu : ∀ c ∈ u, P c)
    {ms : List Mark} (h : ∀ v : List Char, (∀ c ∈ v, P c) → (meets ms v ↔ u <+: v)) :
    ∃ n, ms = u.map .char ++ List.replicate (n + 1) .anyText := by
  induction u generalizing ms with
  | nil =>
    obtain ⟨d, hd, -⟩ := hP 'a'
    exact eq_replicate_of_meets ⟨d, hd⟩ fun v hv => (h v hv).mpr List.nil_prefix
  | cons c u ih =>
    rw [List.forall_mem_cons] at hu
    obtain ⟨d, hd, hne⟩ := hP c
    have hself : meets ms (c :: u) := (h _ (List.forall_mem_cons.mpr hu)).mpr List.prefix_rfl
    have hother : ¬ meets ms (d :: c :: u) := by
      intro hmeets
      have hprefix := (h _ (List.forall_mem_cons.mpr ⟨hd, List.forall_mem_cons.mpr hu⟩)).mp hmeets
      exact hne (List.cons_prefix_cons.mp hprefix).1.symm
    cases ms with
    | nil => simp at hself
    | cons m ms =>
      cases m with
      | char c' =>
        obtain ⟨rest, heq, -⟩ := meets_char.mp hself
        obtain ⟨rfl, rfl⟩ := List.cons.inj heq
        have hrest (v : List Char) (hv : ∀ c ∈ v, P c) : meets ms v ↔ u <+: v := by
          have hcons := h (c :: v) (List.forall_mem_cons.mpr ⟨hu.1, hv⟩)
          simpa [List.cons_prefix_cons] using hcons
        obtain ⟨n, rfl⟩ := ih hu.2 hrest
        exact ⟨n, rfl⟩
      | anyChar =>
        obtain ⟨_, rest, heq, hrest⟩ := meets_anyChar.mp hself
        obtain ⟨rfl, rfl⟩ := List.cons.inj heq
        have hchanged : meets (.anyChar :: ms) (d :: u) := meets_anyChar.mpr ⟨d, u, rfl, hrest⟩
        have hprefix := (h _ (List.forall_mem_cons.mpr ⟨hd, hu.2⟩)).mp hchanged
        exact absurd (List.cons_prefix_cons.mp hprefix).1.symm hne
      | anyText =>
        obtain ⟨rest, hsuffix, hrest⟩ := meets_anyText.mp hself
        exact absurd (meets_anyText.mpr ⟨rest, hsuffix.trans (List.suffix_cons d _), hrest⟩) hother

end Prefixes

section Reading

variable {e : Char}

theorem marks?_escaped (e d : Char) (cs : List Char) :
    marks? (some e) (e :: d :: cs) = (marks? (some e) cs).map (.char d :: ·) := by
  rw [marks?, if_pos rfl]

theorem marks?_plain {c : Char} (hc : c ≠ e) (cs : List Char) :
    marks? (some e) (c :: cs) = (marks? (some e) cs).map (mark c :: ·) := by
  have hne : ¬ some e = some c := fun h => hc (Option.some.inj h).symm
  cases cs with
  | nil => simp [marks?, hne]
  | cons d cs => rw [marks?, if_neg hne]

/-- An escaped text is read as its own characters. -/
theorem marks?_literal_append (e : Char) (t rest : List Char) :
    marks? (some e) (t.flatMap (escapeChar e) ++ rest) =
      (marks? (some e) rest).map (t.map .char ++ ·) := by
  induction t with
  | nil => simp
  | cons c t ih =>
    have hread : marks? (some e) (escapeChar e c ++ (t.flatMap (escapeChar e) ++ rest)) =
        (marks? (some e) (t.flatMap (escapeChar e) ++ rest)).map (.char c :: ·) := by
      unfold escapeChar
      split
      · exact marks?_escaped e c _
      · rename_i hplain
        simp only [not_or] at hplain
        have hmark : mark c = .char c := by
          rw [mark, if_neg hplain.1, if_neg hplain.2.1]
        rw [List.singleton_append, marks?_plain hplain.2.2, hmark]
    rw [List.flatMap_cons, List.append_assoc, hread, ih, Option.map_map]
    rfl

end Reading

section Capitals

variable {m : Char → List Char} {e : Char} {t : List Char}

/-- Every character of a text is put into capitals, of which it may have several. -/
def inCapitals (m : Char → List Char) (s : String) : String := String.ofList (s.toList.flatMap m)

theorem toList_inCapitals (m : Char → List Char) (s : String) :
    (inCapitals m s).toList = s.toList.flatMap m := String.toList_ofList

theorem toList_startingWith (t : String) (e : Char) :
    (startingWith t e).toList = t.toList.flatMap (escapeChar e) ++ ['%'] := by
  simp [startingWith, literal]

/-- The character can be escaped before it is put into capitals as well as after. -/
def Commutes (m : Char → List Char) (e c : Char) : Prop :=
  (escapeChar e c).flatMap m = (m c).flatMap (escapeChar e)

theorem commutes_of_eq {c : Char} (he : m e = [e]) (hc : m c = [c]) : Commutes m e c := by
  unfold Commutes escapeChar
  split <;> simp [*]

theorem flatMap_escaped (h : ∀ c ∈ t, Commutes m e c) :
    (t.flatMap (escapeChar e)).flatMap m = (t.flatMap m).flatMap (escapeChar e) := by
  rw [List.flatMap_assoc, List.flatMap_assoc]
  exact List.flatMap_congr h

/-- The capitals of a pattern for what starts with a text are matched by the capitals that start
with those of the text. -/
theorem like_startingWith (hpercent : m '%' = ['%']) (he : e ≠ '%') {t : String}
    (ht : ∀ c ∈ t.toList, Commutes m e c) (v : String) :
    like (some e) (inCapitals m (startingWith t e)) (inCapitals m v) ↔
      (inCapitals m t).toList <+: (inCapitals m v).toList := by
  have hpattern : (inCapitals m (startingWith t e)).toList =
      (t.toList.flatMap m).flatMap (escapeChar e) ++ ['%'] := by
    rw [toList_inCapitals, toList_startingWith, List.flatMap_append, flatMap_escaped ht]
    simp [hpercent]
  have hread : marks? (some e) ['%'] = some [.anyText] := by
    rw [marks?_plain he.symm]
    rfl
  rw [like, hpattern, marks?_literal_append, hread, Option.map_some, Option.any_some,
    meets_startingWith, toList_inCapitals m t, toList_inCapitals m v]

end Capitals

end Pattern

end AspectQuery
