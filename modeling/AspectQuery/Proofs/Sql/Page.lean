import AspectQuery.Proofs.Sql.Shape
/-!
# Signs in the clause of a page

A page is given by numbers, which may be negative. No other part of a statement has a minus sign, so
that no comment can begin.
-/

set_option autoImplicit false

namespace AspectQuery.Sql

/-- A minus sign stands only in front of a digit. -/
def Signed : List Char → Prop
  | [] => True
  | c :: cs => (c = '-' → ∃ d ∈ cs.head?, d.isDigit) ∧ Signed cs

/-- What the clause of a page is written with. -/
def isPageChar (c : Char) : Bool := isIdentifierChar c || c == ' ' || c == '-'

theorem Signed.append {cs ds : List Char} (hcs : Signed cs) (hds : Signed ds) :
    Signed (cs ++ ds) := by
  induction cs with
  | nil => exact hds
  | cons c cs ih =>
    obtain ⟨hc, hcs⟩ := hcs
    refine ⟨fun hminus => ?_, ih hcs⟩
    obtain ⟨d, hd, hdigit⟩ := hc hminus
    refine ⟨d, ?_, hdigit⟩
    cases cs with
    | nil => simp at hd
    | cons e cs => exact hd

theorem signed_of_notMem {cs : List Char} (h : '-' ∉ cs) : Signed cs := by
  induction cs with
  | nil => trivial
  | cons c cs ih =>
    simp only [List.mem_cons, not_or] at h
    exact ⟨fun hminus => absurd hminus.symm h.1, ih h.2⟩

/-- Two minus signs in a row, which begin a comment, stand nowhere. -/
theorem Signed.not_comment {cs ds : List Char} (h : Signed (cs ++ '-' :: '-' :: ds)) : False := by
  induction cs with
  | nil =>
    obtain ⟨d, hd, hdigit⟩ := h.1 rfl
    obtain rfl := Option.some.inj hd
    exact absurd hdigit (by decide)
  | cons c cs ih => exact ih h.2

structure PageText (cs : List Char) : Prop where
  chars : ∀ c ∈ cs, isPageChar c
  signed : Signed cs

theorem PageText.append {cs ds : List Char} (hcs : PageText cs) (hds : PageText ds) :
    PageText (cs ++ ds) := by
  refine ⟨fun c hc => ?_, hcs.signed.append hds.signed⟩
  rcases List.mem_append.mp hc with hc | hc
  · exact hcs.chars c hc
  · exact hds.chars c hc

theorem isDigit_of_mem_repr {n : Nat} {c : Char} (h : c ∈ n.repr.toList) : c.isDigit := by
  rw [Nat.toList_repr] at h
  exact Nat.isDigit_of_mem_toDigits (by omega) (by omega) h

theorem toList_repr_negSucc (n : Nat) :
    (Int.negSucc n).repr.toList = '-' :: (n + 1).repr.toList := by
  show ("-" ++ (n + 1).repr).toList = _
  simp

theorem pageText_repr (n : Nat) : PageText n.repr.toList := by
  refine ⟨fun c hc => ?_, signed_of_notMem fun hc => absurd (isDigit_of_mem_repr hc) (by decide)⟩
  simp [isPageChar, isIdentifierChar, Char.isAlphanum, isDigit_of_mem_repr hc]

theorem pageText_integer (i : Int) : PageText (Token.integer i).text.toList := by
  cases i with
  | ofNat n => exact pageText_repr n
  | negSucc n =>
    have htext : (Token.integer (.negSucc n)).text.toList = '-' :: (n + 1).repr.toList :=
      toList_repr_negSucc n
    obtain ⟨hchars, hsigned⟩ := pageText_repr (n + 1)
    rw [htext]
    refine ⟨List.forall_mem_cons.mpr ⟨by decide, hchars⟩, fun _ => ?_, hsigned⟩
    rw [Nat.toList_repr]
    obtain ⟨d, ds, hds⟩ := List.exists_cons_of_ne_nil (Nat.toDigits_ne_nil (n := n + 1) (b := 10))
    rw [hds]
    exact ⟨d, rfl, Nat.isDigit_of_mem_toDigits (b := 10) (by omega) (by omega)
      (hds ▸ List.mem_cons_self)⟩

theorem pageText_keyword (k : Keyword) : PageText (Token.keyword k).text.toList := by
  cases k <;> exact ⟨List.all_eq_true.mp rfl, signed_of_notMem (by decide)⟩

theorem pageText_space : PageText (Token.text .space).toList :=
  ⟨List.all_eq_true.mp rfl, signed_of_notMem (by decide)⟩

/-- The tokens that a page is written with. -/
def isPageToken : Token → Bool
  | .space => true
  | .keyword _ => true
  | .integer _ => true
  | _ => false

theorem pageText_of_isPageToken {t : Token} (h : isPageToken t) : PageText t.text.toList := by
  cases t with
  | space => exact pageText_space
  | keyword k => exact pageText_keyword k
  | integer i => exact pageText_integer i
  | _ => simp [isPageToken] at h

theorem isPageToken_page (d : Dialect) (limit offset : Option UInt64) :
    (spaced (d.page limit offset)).all isPageToken := by
  cases d <;> cases limit <;> cases offset <;> rfl

theorem pageText_page (d : Dialect) (limit offset : Option UInt64) :
    PageText (Token.render (spaced (d.page limit offset))).toList := by
  have hall : ∀ ts : List Token, ts.all isPageToken → PageText (Token.render ts).toList := by
    intro ts hts
    induction ts with
    | nil => exact ⟨by simp, trivial⟩
    | cons t ts ih =>
      simp only [List.all_cons, Bool.and_eq_true] at hts
      rw [render_cons, String.toList_append]
      exact (pageText_of_isPageToken hts.1).append (ih hts.2)
  exact hall _ (isPageToken_page d limit offset)

theorem render_page_none (d : Dialect) : Token.render (spaced (d.page none none)) = "" := by
  cases d <;> rfl

/-- A text that is scanned to its end, with all literals and parentheses closed. Only its page has
minus signs, each in front of a digit. -/
structure Closed (text page : String) (holes : Nat) (os : List Char) : Prop where
  scan : outside? false text.toList = some (os ++ page.toList)
  plain : ∀ c ∈ os, isPlainChar c
  signs : ∀ c ∈ page.toList, isPlainChar c ∨ c = '-'
  signed : Signed (os ++ page.toList)
  balanced : unmatched (os ++ page.toList) = (0, 0)
  holes : (os ++ page.toList).count '?' = holes

theorem closed_of_level {text : String} {n : Nat} (h : Level text n) (d : Dialect)
    (limit offset : Option UInt64) :
    ∃ os, Closed (text ++ Token.render (spaced (d.page limit offset)))
      (Token.render (spaced (d.page limit offset))) n os := by
  obtain ⟨os, hos, hplain, hunmatched, hcount⟩ := h
  obtain ⟨hchars, hsigned⟩ := pageText_page d limit offset
  generalize Token.render (spaced (d.page limit offset)) = page at hchars hsigned
  have hnot : ∀ c, isPageChar c = false → c ∉ page.toList := by
    intro c hc hmem
    rw [hchars c hmem] at hc
    exact absurd hc (by decide)
  have hminus : '-' ∉ os := fun hmem => absurd (hplain _ hmem) (by decide)
  refine ⟨os, ?_, hplain, fun c hc => ?_, (signed_of_notMem hminus).append hsigned, ?_, ?_⟩
  · rw [String.toList_append, outside?_append hos, outside?_of_notMem (hnot _ (by decide))]
    rfl
  · have hpage := hchars c hc
    simp only [isPageChar, Bool.or_eq_true, beq_iff_eq] at hpage
    rcases hpage with (hpage | rfl) | rfl
    · exact .inl (by simp [isPlainChar, hpage])
    · exact .inl (by decide)
    · exact .inr rfl
  · rw [unmatched_append, hunmatched,
      unmatched_of_notMem (hnot _ (by decide)) (hnot _ (by decide))]
    rfl
  · have hnone := List.count_eq_zero_of_not_mem (hnot '?' (by decide))
    rw [List.count_append, hcount, hnone, Nat.add_zero]

end AspectQuery.Sql
