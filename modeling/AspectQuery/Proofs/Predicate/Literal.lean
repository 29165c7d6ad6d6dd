import AspectQuery.Proofs.Predicate.Matching
/-!
# Filters for a text itself

An escaped text is a pattern that nothing but the text is like, whatever its escape character is. A
percent sign after it stands for any further text, unless it is the escape character itself.
-/

set_option autoImplicit false

namespace AspectQuery

open Sql (Contents Operators Scope)

namespace Pattern

/-- Every escape character stands before a character that has to be escaped. -/
def wellEscaped (e : Char) : List Char → Bool
  | [] => true
  | [c] => c ≠ e
  | c :: d :: cs =>
    if c = e then (d = '%' ∨ d = '_' ∨ d = e) && wellEscaped e cs else wellEscaped e (d :: cs)

section Escaping

variable {e c d : Char}

theorem wellEscaped_escaped (hd : d = '%' ∨ d = '_' ∨ d = e) (cs : List Char) :
    wellEscaped e (e :: d :: cs) = wellEscaped e cs := by
  simp [wellEscaped, hd]

theorem wellEscaped_plain (hc : c ≠ e) (cs : List Char) :
    wellEscaped e (c :: cs) = wellEscaped e cs := by
  cases cs with
  | nil => simp [wellEscaped, hc]
  | cons d cs => rw [wellEscaped, if_neg hc]

theorem wellEscaped_literal_append (e : Char) (t rest : List Char) :
    wellEscaped e (t.flatMap (escapeChar e) ++ rest) = wellEscaped e rest := by
  induction t with
  | nil => rfl
  | cons c t ih =>
    rw [List.flatMap_cons, List.append_assoc, escapeChar]
    split
    · rename_i hspecial
      exact (wellEscaped_escaped hspecial _).trans ih
    · rename_i hplain
      simp only [not_or] at hplain
      exact (wellEscaped_plain hplain.2.2 _).trans ih

/-- A percent sign at the end stands for any text, or for nothing if it escapes. -/
theorem marks?_startingWith (t : String) (e : Char) :
    marks? (some e) (startingWith t e).toList =
      if e = '%' then none else some (t.toList.map .char ++ [.anyText]) := by
  rw [toList_startingWith, marks?_literal_append, marks?]
  by_cases he : e = '%'
  · simp [he]
  · simp [he, mark]

theorem marks?_literal (t : String) (e : Char) :
    marks? (some e) (literal t e).toList = some (t.toList.map .char) := by
  have hread := marks?_literal_append e t.toList []
  simpa [literal, marks?] using hread

theorem like_literal {t v : String} : like (some e) (literal t e) v ↔ v = t := by
  have hmeets : meets (t.toList.map .char ++ []) v.toList ↔ _ := meets_chars_append t.toList
  rw [List.append_nil] at hmeets
  rw [like, marks?_literal, Option.any_some, hmeets]
  constructor
  · rintro ⟨rest, hv, hrest⟩
    rw [meets_nil.mp hrest, List.append_nil] at hv
    exact String.toList_inj.mp hv
  · rintro rfl
    exact ⟨[], (List.append_nil _).symm, meets_nil.mpr rfl⟩

theorem like_startingWith_iff_prefix (he : e ≠ '%') {t v : String} :
    like (some e) (startingWith t e) v ↔ t.toList <+: v.toList := by
  rw [like, marks?_startingWith, if_neg he, Option.any_some, meets_startingWith]

theorem not_like_startingWith_percent (t v : String) :
    ¬ like (some '%') (startingWith t '%') v := by
  rw [like, marks?_startingWith, if_pos rfl]
  simp

/-- An escaped text is well escaped, and is a pattern for nothing but the text. With a percent sign
after it, it is well escaped and a pattern for what starts with the text, if and only if the percent
sign is not the escape character. -/
theorem escaped_text_is_literal (t : String) (e : Char) :
    wellEscaped e (literal t e).toList ∧ (∀ v, like (some e) (literal t e) v ↔ v = t) ∧
      (wellEscaped e (startingWith t e).toList ↔ e ≠ '%') ∧
      ((∀ v, like (some e) (startingWith t e) v ↔ t.toList <+: v.toList) ↔ e ≠ '%') := by
  have hliteral := wellEscaped_literal_append e t.toList []
  refine ⟨?_, fun v => like_literal, ?_, ?_, fun he v => like_startingWith_iff_prefix he⟩
  · simpa [literal, wellEscaped] using hliteral
  · rw [toList_startingWith, wellEscaped_literal_append, wellEscaped, decide_eq_true_iff]
    exact ne_comm
  · rintro h rfl
    exact not_like_startingWith_percent t t ((h t).mpr List.prefix_rfl)

end Escaping

end Pattern

namespace Predicate

variable {schema : Schema} {path : AttributePath} {target : Attribute}

/-- A filter with an escaped text, in which letter case counts, holds for the items with this
text. -/
theorem holds_literal (hschema : schema.Proper) (hpath : schema.lookup path = .ok target)
    (options : Options) (t : String) (e : Char) (ms : Mentions) :
    ∃ p ms', ofFilter schema options (.like path (Pattern.literal t e) (some e) true) ms =
        .ok (p, ms') ∧
      ∀ (ops : Operators) (db : Contents) (m : Char → List Char) (item : ItemView) (σ : Scope),
        Part.truth? (ops.withCapitals m) db p.params p.parts ⟨σ, item.mentioned ms', item.id⟩ =
            some .holds ↔
          .text t ∈ item.values (ops.withCapitals m) db schema.naming target := by
  obtain ⟨p, ms', hp, hholds⟩ := holds_like hschema hpath options (Pattern.literal t e) e true ms
  refine ⟨p, ms', hp, fun ops db m item σ => ?_⟩
  rw [hholds]
  constructor
  · rintro ⟨s, hs, hlike⟩
    rwa [← Pattern.like_literal.mp hlike]
  · intro ht
    exact ⟨t, ht, Pattern.like_literal.mpr rfl⟩

end Predicate

end AspectQuery
