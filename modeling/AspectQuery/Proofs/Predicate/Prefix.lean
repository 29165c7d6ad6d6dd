import AspectQuery.Proofs.Predicate.Matching
import AspectQuery.Proofs.Text.Ascii
/-!
# Filters for what starts with a text

A pattern for what starts with a text is escaped as the text was written and put into capitals
afterwards, while its escape character is named as it is. This goes well unless the escape character
is a small letter that the pattern needs, or a capital whose small letter is in the text.
-/

set_option autoImplicit false

namespace AspectQuery

open Sql (Contents Operators Scope Truth)

namespace Pattern

open Ascii

/-- The letters of ASCII have capitals, and no other characters do. -/
def asciiUpper (c : Char) : List Char := [c.toUpper]

/-- The character has to be escaped if it is meant itself. -/
def special (e c : Char) : Bool := c = '%' ∨ c = '_' ∨ c = e

/-- Nothing is escaped with a small letter, and the escape character is not the capital of a letter
of the text. -/
structure CaseSafe (e : Char) (t : List Char) : Prop where
  lower : e.isLower → ∀ c ∈ t, special e c = false
  upper : e.isUpper → e.toLower ∉ t

section Special

variable {e c : Char}

theorem special_iff : special e c = true ↔ c = '%' ∨ c = '_' ∨ c = e := decide_eq_true_iff

theorem escapeChar_eq (e c : Char) : escapeChar e c = if special e c then [e, c] else [c] := by
  simp only [escapeChar, special_iff]

theorem eq_or_eq_of_mem_escapeChar {d : Char} (h : d ∈ escapeChar e c) : d = e ∨ d = c := by
  rw [escapeChar_eq] at h
  split at h
  · simpa using h
  · exact .inr (List.mem_singleton.mp h)

theorem toUpper_eq_self_of_special (he : e.isLower = false) (h : special e c) : c.toUpper = c := by
  rcases special_iff.mp h with rfl | rfl | rfl
  · rfl
  · rfl
  · exact toUpper_eq_self he

theorem ne_toUpper_of_isLower (he : e.isLower) (c : Char) : c.toUpper ≠ e := by
  rintro rfl
  rw [isLower_toUpper] at he
  cases he

/-- A character whose capital is special is so itself, or it is the small letter of the escape
character. -/
theorem special_or_eq_toLower (h : special e c.toUpper) :
    special e c ∨ e.isUpper ∧ c = e.toLower := by
  cases hc : c.isLower with
  | true =>
    have hupper := isUpper_toUpper hc
    rcases special_iff.mp h with heq | heq | heq
    · simp [heq] at hupper
    · simp [heq] at hupper
    · exact .inr ⟨heq ▸ hupper, by rw [← heq, toLower_toUpper hc]⟩
  | false =>
    rw [toUpper_eq_self hc] at h
    exact .inl h

end Special

section Sufficient

variable {e : Char} {t : List Char}

theorem flatMap_asciiUpper (cs : List Char) : cs.flatMap asciiUpper = cs.map Char.toUpper :=
  List.map_eq_flatMap.symm

theorem commutes_of_caseSafe (h : CaseSafe e t) : ∀ c ∈ t, Commutes asciiUpper e c := by
  intro c hc
  have hright : (asciiUpper c).flatMap (escapeChar e) = escapeChar e c.toUpper :=
    List.flatMap_singleton _ _
  rw [Commutes, flatMap_asciiUpper, hright, escapeChar_eq, escapeChar_eq]
  by_cases hspecial : special e c
  · have he : e.isLower = false := by
      by_contra hlower
      rw [h.lower (by simpa using hlower) c hc] at hspecial
      simp at hspecial
    have hself := toUpper_eq_self_of_special he hspecial
    have hescape : e.toUpper = e := toUpper_eq_self he
    rw [hself, if_pos hspecial, List.map_cons, List.map_singleton, hself, hescape]
  · have hnot : ¬ special e c.toUpper := by
      intro hcapital
      rcases special_or_eq_toLower hcapital with hc' | ⟨hupper, rfl⟩
      · exact hspecial hc'
      · exact h.upper hupper hc
    rw [if_neg hspecial, if_neg hnot, List.map_singleton]

end Sufficient

section Counting

variable {e c : Char} {cs : List Char} {ms : List Mark}

/-- The mark is of a character that can only be meant where it is escaped. -/
def Mark.isEscaped (e : Char) : Mark → Bool
  | .char c => special e c
  | _ => false

theorem isEscaped_mark (hc : c ≠ e) : (mark c).isEscaped e = false := by
  unfold mark
  split
  · rfl
  · split
    · rfl
    · simp [Mark.isEscaped, special, *]

theorem eq_of_mark_eq_anyText (h : mark c = .anyText) : c = '%' := by
  unfold mark at h
  split at h
  · assumption
  · split at h <;> simp at h

theorem ne_of_mark_eq_char {d : Char} (h : mark d = .char c) : c ≠ '%' := by
  rintro rfl
  unfold mark at h
  split at h
  · simp at h
  · split at h
    · simp at h
    · obtain rfl := Mark.char.inj h
      contradiction

theorem length_flatMap_escapeChar (e : Char) (t : List Char) :
    (t.flatMap (escapeChar e)).length = t.length + t.countP (special e) := by
  induction t with
  | nil => rfl
  | cons c t ih =>
    rw [List.flatMap_cons, List.length_append, ih, escapeChar_eq, List.countP_cons,
      List.length_cons]
    split <;> simp <;> omega

/-- Every escaped character takes the place of two. -/
theorem length_le_of_marks? (h : marks? (some e) cs = some ms) :
    ms.length + ms.countP (Mark.isEscaped e) ≤ cs.length := by
  fun_induction marks? (some e) cs generalizing ms with
  | case1 =>
    obtain rfl := Option.some.inj h
    simp
  | case2 c hc => simp at h
  | case3 c hc =>
    obtain rfl := Option.some.inj h
    have hne : c ≠ e := fun heq => hc (by rw [heq])
    simp [isEscaped_mark hne]
  | case4 c d cs hc ih =>
    obtain ⟨rest, hrest, rfl⟩ := Option.map_eq_some_iff.mp h
    have hle := ih hrest
    rw [List.countP_cons, List.length_cons, List.length_cons, List.length_cons]
    split <;> omega
  | case5 c d cs hc ih =>
    obtain ⟨rest, hrest, rfl⟩ := Option.map_eq_some_iff.mp h
    have hle := ih hrest
    have hne : c ≠ e := fun heq => hc (by rw [heq])
    have hcount : (mark c :: rest).countP (Mark.isEscaped e) = rest.countP (Mark.isEscaped e) :=
      List.countP_cons_of_neg (by simp [isEscaped_mark hne])
    rw [hcount, List.length_cons, List.length_cons]
    omega

theorem marks?_of_notMem (h : e ∉ cs) : marks? (some e) cs = some (cs.map mark) := by
  induction cs with
  | nil => rfl
  | cons c cs ih =>
    rw [List.mem_cons, not_or] at h
    rw [marks?_plain (Ne.symm h.1), ih h.2, Option.map_some, List.map_cons]

theorem countP_map_char (e : Char) (us : List Char) (n : Nat) :
    (us.map Mark.char ++ List.replicate n Mark.anyText).countP (Mark.isEscaped e) =
      us.countP (special e) := by
  have htexts : (List.replicate n Mark.anyText).countP (Mark.isEscaped e) = 0 :=
    List.countP_replicate.trans (if_neg (by simp [Mark.isEscaped]))
  rw [List.countP_append, htexts, List.countP_map]
  rfl

end Counting

section Necessary

variable {e : Char} {t : List Char} {n : Nat}

/-- If a weaker condition is met no more often than a stronger one, what meets it meets both. -/
theorem imp_of_countP_le {p q : Char → Bool} (hpq : ∀ c ∈ t, p c → q c)
    (h : t.countP q ≤ t.countP p) : ∀ c ∈ t, q c → p c := by
  induction t with
  | nil => simp
  | cons d t ih =>
    rw [List.forall_mem_cons] at hpq
    have hrest : t.countP p ≤ t.countP q := List.countP_mono_left hpq.2
    rw [List.countP_cons, List.countP_cons] at h
    rw [List.forall_mem_cons]
    by_cases hq : q d
    · by_cases hp : p d
      · exact ⟨fun _ => hp, ih hpq.2 (by simp [hp, hq] at h; exact h)⟩
      · simp [hp, hq] at h
        omega
    · have hp : ¬ p d := fun hp => hq (hpq.1 hp)
      exact ⟨fun hq' => absurd hq' hq, ih hpq.2 (by simp [hp, hq] at h; exact h)⟩

/-- The pattern of what starts with a text, in capitals. -/
def capitalPattern (e : Char) (t : List Char) : List Char :=
  (t.flatMap (escapeChar e) ++ ['%']).map Char.toUpper

/-- The pattern is read as the capitals of the text and then any text. -/
def ReadsAsPrefix (e : Char) (t : List Char) : Prop :=
  ∃ n, marks? (some e) (capitalPattern e t) =
    some ((t.map Char.toUpper).map .char ++ List.replicate (n + 1) .anyText)

theorem length_capitalPattern (e : Char) (t : List Char) :
    (capitalPattern e t).length = t.length + t.countP (special e) + 1 := by
  rw [capitalPattern, List.length_map, List.length_append, length_flatMap_escapeChar]
  rfl

/-- An escape character that stays as it is in capitals escapes nothing but what was escaped. -/
theorem notMem_toLower_of_readsAsPrefix (he : e.isUpper) (h : ReadsAsPrefix e t) :
    e.toLower ∉ t := by
  obtain ⟨n, h⟩ := h
  have hlower : e.isLower = false := isLower_eq_false he
  have hle := length_le_of_marks? h
  rw [countP_map_char, length_capitalPattern, List.countP_map, List.length_append, List.length_map,
    List.length_map, List.length_replicate] at hle
  have himp : ∀ c ∈ t, special e c → (special e ∘ Char.toUpper) c := by
    intro c _ hc
    rwa [Function.comp_apply, toUpper_eq_self_of_special hlower hc]
  have hback := imp_of_countP_le himp (by omega)
  intro hmem
  have hspecial := hback _ hmem (by simp [special, toUpper_toLower he])
  have halpha := isLower_toLower he
  rcases special_iff.mp hspecial with heq | heq | heq
  · simp [heq] at halpha
  · simp [heq] at halpha
  · simp [heq, hlower] at halpha

/-- A small letter escapes nothing in capitals, so that no character may be special. -/
theorem not_special_of_readsAsPrefix (he : e.isLower) (h : ReadsAsPrefix e t) :
    ∀ c ∈ t, special e c = false := by
  obtain ⟨n, h⟩ := h
  have hnot : e ∉ capitalPattern e t := by
    intro hmem
    obtain ⟨c, -, hc⟩ := List.mem_map.mp hmem
    exact ne_toUpper_of_isLower he c hc
  have hlength := length_capitalPattern e t
  rw [marks?_of_notMem hnot, Option.some.injEq] at h
  have hcount : t.countP (special e) = n := by
    have hmarks := congrArg List.length h
    simp only [List.length_map, List.length_append, List.length_replicate] at hmarks
    omega
  -- The text has no percent sign, or its capitals would not be read as themselves.
  have hpercent : ∀ c ∈ t, c.toUpper ≠ '%' := by
    intro c hc
    have hmem : .char c.toUpper ∈ (capitalPattern e t).map mark := by
      rw [h]
      exact List.mem_append_left _ (List.mem_map_of_mem (List.mem_map_of_mem hc))
    obtain ⟨d, -, hd⟩ := List.mem_map.mp hmem
    exact ne_of_mark_eq_char hd
  -- So there is just one in the pattern, which stands at its end.
  have hlast : ((t.flatMap (escapeChar e)).map Char.toUpper).map mark =
      (t.map Char.toUpper).map .char ++ List.replicate n .anyText := by
    rw [capitalPattern, List.map_append, List.map_append, List.replicate_succ',
      ← List.append_assoc] at h
    exact List.append_cancel_right h
  have hzero : n = 0 := by
    by_contra hn
    have hmem : Mark.anyText ∈ ((t.flatMap (escapeChar e)).map Char.toUpper).map mark := by
      rw [hlast]
      exact List.mem_append_right _ (List.mem_replicate.mpr ⟨hn, rfl⟩)
    obtain ⟨d', hd', hmark⟩ := List.mem_map.mp hmem
    obtain ⟨d, hd, rfl⟩ := List.mem_map.mp hd'
    obtain ⟨c, hc, hdc⟩ := List.mem_flatMap.mp hd
    rcases eq_or_eq_of_mem_escapeChar hdc with rfl | rfl
    · have hupper := isUpper_toUpper he
      simp [eq_of_mark_eq_anyText hmark] at hupper
    · exact hpercent d hc (eq_of_mark_eq_anyText hmark)
  rw [hzero, List.countP_eq_zero] at hcount
  simpa using hcount

end Necessary

section Exact

variable {e : Char}

theorem toList_capitals_startingWith (t : String) (e : Char) :
    (inCapitals asciiUpper (startingWith t e)).toList = capitalPattern e t.toList := by
  rw [toList_inCapitals, toList_startingWith, flatMap_asciiUpper, capitalPattern]

/-- A pattern that works for all texts is read as it is meant. -/
theorem readsAsPrefix_of_like {t : String}
    (h : ∀ v, like (some e) (inCapitals asciiUpper (startingWith t e)) (inCapitals asciiUpper v) ↔
      (inCapitals asciiUpper t).toList <+: (inCapitals asciiUpper v).toList) :
    ReadsAsPrefix e t.toList := by
  obtain ⟨ms, hms⟩ : ∃ ms, marks? (some e) (capitalPattern e t.toList) = some ms := by
    have hself := (h t).mpr List.prefix_rfl
    rw [like, toList_capitals_startingWith, Option.any_eq_true] at hself
    obtain ⟨ms, hms, -⟩ := hself
    exact ⟨ms, hms⟩
  have hmeets (v : List Char) (hv : ∀ c ∈ v, c.toUpper = c) :
      meets ms v ↔ t.toList.map Char.toUpper <+: v := by
    have hcapitals : (inCapitals asciiUpper (String.ofList v)).toList = v := by
      rw [toList_inCapitals, flatMap_asciiUpper, String.toList_ofList, List.map_congr_left hv,
        List.map_id']
    have hlike := h (String.ofList v)
    rwa [like, toList_capitals_startingWith, hms, Option.any_some, hcapitals, toList_inCapitals,
      flatMap_asciiUpper] at hlike
  have hdigits (c : Char) : ∃ d : Char, d.toUpper = d ∧ d ≠ c := by
    by_cases hc : c = '0'
    · exact ⟨'1', rfl, by simp [hc]⟩
    · exact ⟨'0', rfl, Ne.symm hc⟩
  have hcapital : ∀ c ∈ t.toList.map Char.toUpper, c.toUpper = c :=
    List.forall_mem_map.mpr fun c _ => toUpper_eq_self (isLower_toUpper c)
  obtain ⟨n, rfl⟩ := eq_of_meets_iff_prefix hdigits hcapital hmeets
  exact ⟨n, hms⟩

theorem like_iff_prefix_iff (he : e ≠ '%') (t : String) :
    (∀ v, like (some e) (inCapitals asciiUpper (startingWith t e)) (inCapitals asciiUpper v) ↔
      (inCapitals asciiUpper t).toList <+: (inCapitals asciiUpper v).toList) ↔
      CaseSafe e t.toList := by
  constructor
  · intro h
    have hreads := readsAsPrefix_of_like h
    exact ⟨fun hlower => not_special_of_readsAsPrefix hlower hreads,
      fun hupper => notMem_toLower_of_readsAsPrefix hupper hreads⟩
  · intro h v
    exact like_startingWith rfl he (commutes_of_caseSafe h) v

end Exact

end Pattern

namespace Predicate

variable {d : SchemaDefinition} {naming : Naming} {schema : Schema} {path : AttributePath}
  {target : Attribute}

/-- A filter for what starts with a text can be compiled. It holds for just the stored texts that
start with the text when both are in capitals, if and only if the escape character is safe. -/
theorem starting_with_iff_prefix (hschema : Schema.ofDefinition d naming = .ok schema)
    (hpath : schema.lookup path = .ok target) (hbounded : target.bounded) (options : Options)
    (ms : Mentions) (t : String) {e : Char} (he : e ≠ '%') :
    ∃ p ms', ofFilter schema options (.likeIgnoreCase path (Pattern.startingWith t e) e) ms =
        .ok (p, ms') ∧
      ((∀ (ops : Operators) (db : Contents) (item : ItemView) (σ : Scope) (v : String),
          item.bounded target = .text v →
          (Part.truth? (ops.withCapitals Pattern.asciiUpper) db p.params p.parts
              ⟨σ, item.mentioned ms', item.id⟩ = some .holds ↔
            (Pattern.inCapitals Pattern.asciiUpper t).toList <+:
              (Pattern.inCapitals Pattern.asciiUpper v).toList)) ↔
        Pattern.CaseSafe e t.toList) := by
  have hproper := Schema.proper_of_ofDefinition hschema
  obtain ⟨p, ms', hp, hholds⟩ :=
    holds_likeIgnoreCase hproper hpath options (Pattern.startingWith t e) e ms
  refine ⟨p, ms', hp, ?_⟩
  rw [← Pattern.like_iff_prefix_iff he]
  have hvalue (ops : Operators) (db : Contents) (item : ItemView) (σ : Scope) (v : String)
      (hv : item.bounded target = .text v) :
      Part.truth? (ops.withCapitals Pattern.asciiUpper) db p.params p.parts
          ⟨σ, item.mentioned ms', item.id⟩ = some .holds ↔
        Pattern.like (some e) (Pattern.inCapitals Pattern.asciiUpper (Pattern.startingWith t e))
          (Pattern.inCapitals Pattern.asciiUpper v) := by
    rw [hholds, ItemView.values, if_pos hbounded, hv]
    simp
  constructor
  · intro h v
    rw [← hvalue .equality (fun _ => []) ⟨.null, fun _ => .text v⟩ [] v rfl]
    exact h .equality (fun _ => []) ⟨.null, fun _ => .text v⟩ [] v rfl
  · intro h ops db item σ v hv
    rw [hvalue ops db item σ v hv]
    exact h v

/-- An exclamation mark is no letter, and does not depend on the letters of the text. -/
theorem starting_with_iff_prefix_films :
    Schema.ofDefinition films {} = .ok filmSchema ∧
      filmSchema.lookup ⟨"film", "title"⟩ = .ok filmTitle ∧ filmTitle.bounded ∧ '!' ≠ '%' ∧
      ∃ p ms', ofFilter filmSchema {}
          (.likeIgnoreCase ⟨"film", "title"⟩ (Pattern.startingWith "50%" '!') '!') {} =
            .ok (p, ms') ∧
        ∀ (ops : Operators) (db : Contents) (item : ItemView) (σ : Scope) (v : String),
          item.bounded filmTitle = .text v →
          (Part.truth? (ops.withCapitals Pattern.asciiUpper) db p.params p.parts
              ⟨σ, item.mentioned ms', item.id⟩ = some .holds ↔
            (Pattern.inCapitals Pattern.asciiUpper "50%").toList <+:
              (Pattern.inCapitals Pattern.asciiUpper v).toList) := by
  have hschema : Schema.ofDefinition films {} = .ok filmSchema := rfl
  have hpath : filmSchema.lookup ⟨"film", "title"⟩ = .ok filmTitle := rfl
  have hbounded : filmTitle.bounded := rfl
  have he : '!' ≠ '%' := by decide
  obtain ⟨p, ms', hp, hexact⟩ :=
    starting_with_iff_prefix hschema hpath hbounded {} {} "50%" he
  have hsafe : Pattern.CaseSafe '!' "50%".toList := ⟨by decide, by decide⟩
  exact ⟨hschema, hpath, hbounded, he, p, ms', hp, hexact.mpr hsafe⟩

/-- The pattern is `50x%%`. In capitals its letter is no escape character any more. -/
theorem starting_with_small_escape :
    ∃ p ms', ofFilter filmSchema {}
        (.likeIgnoreCase ⟨"film", "title"⟩ (Pattern.startingWith "50%" 'x') 'x') {} =
          .ok (p, ms') ∧
      Part.truth? (Operators.equality.withCapitals Pattern.asciiUpper) (fun _ => []) p.params
          p.parts ⟨[], (film "50% off").mentioned ms', (film "50% off").id⟩ = some .fails ∧
      (Pattern.inCapitals Pattern.asciiUpper "50%").toList <+:
        (Pattern.inCapitals Pattern.asciiUpper "50% off").toList :=
  ⟨_, _, rfl, by decide +kernel, by decide⟩

end Predicate

end AspectQuery
