import AspectQuery.Proofs.Sql.Lexing
/-!
# Text outside literals

A text is scanned for the characters that stand outside its literals. What is found there, the
parentheses without a partner and the number of question marks, is put together from the parts of
a text, so that a statement can be judged by its parts.
-/

set_option autoImplicit false

namespace AspectQuery.Sql

/-- The characters outside literals, unless a literal is not closed. Two quotes inside a literal
belong to it. -/
def outside? : Bool → List Char → Option (List Char)
  | false, [] => some []
  | true, [] => none
  | true, '\'' :: '\'' :: cs => outside? true cs
  | inside, c :: cs =>
    if c = '\'' then outside? (!inside) cs
    else if inside then outside? true cs
    else (outside? false cs).map (c :: ·)

/-- The closing and the opening parentheses that have no partner. -/
def unmatched : List Char → Nat × Nat
  | [] => (0, 0)
  | c :: cs =>
    let (closing, opening) := unmatched cs
    if c = '(' then if closing = 0 then (0, opening + 1) else (closing - 1, opening)
    else if c = ')' then (closing + 1, opening)
    else (closing, opening)

/-- What statements are written with, apart from literals and negative numbers. -/
def isPlainChar (c : Char) : Bool :=
  isIdentifierChar c || c ∈ ['.', ',', '(', ')', '=', '<', '>', '?', ' ']

theorem outside?_true_cons (c : Char) (cs : List Char) :
    outside? true (c :: cs) = if c = '\'' then outside? false cs else outside? true cs := by
  by_cases hc : c = '\''
  · subst hc
    cases cs with
    | nil => simp [outside?]
    | cons d ds =>
      by_cases hd : d = '\''
      · subst hd
        simp [outside?]
      · simp [outside?, hd]
  · simp [outside?, hc]

theorem outside?_false_cons (c : Char) (cs : List Char) :
    outside? false (c :: cs) =
      if c = '\'' then outside? true cs else (outside? false cs).map (c :: ·) := by
  simp [outside?]

theorem outside?_append {inside : Bool} {cs os : List Char} (h : outside? inside cs = some os)
    (ds : List Char) : outside? inside (cs ++ ds) = (outside? false ds).map (os ++ ·) := by
  induction cs generalizing inside os with
  | nil =>
    cases inside with
    | false =>
      obtain rfl : [] = os := by simpa [outside?] using h
      simp
    | true => simp [outside?] at h
  | cons c cs ih =>
    rw [List.cons_append]
    cases inside with
    | true =>
      rw [outside?_true_cons] at h ⊢
      split at h
      · rename_i hc
        rw [if_pos hc, ih h]
      · rename_i hc
        rw [if_neg hc, ih h]
    | false =>
      rw [outside?_false_cons] at h ⊢
      split at h
      · rename_i hc
        rw [if_pos hc, ih h]
      · rename_i hc
        obtain ⟨os', hos', rfl⟩ := Option.map_eq_some_iff.mp h
        rw [if_neg hc, ih hos', Option.map_map]
        rfl

theorem outside?_of_notMem {cs : List Char} (h : '\'' ∉ cs) : outside? false cs = some cs := by
  induction cs with
  | nil => rfl
  | cons c cs ih =>
    simp only [List.mem_cons, not_or] at h
    rw [outside?_false_cons, if_neg (Ne.symm h.1), ih h.2]
    rfl

theorem outside?_quote (s : String) : outside? false (quote s).toList = some [] := by
  have hinside : ∀ cs : List Char, outside? true (cs.flatMap quoteChar ++ ['\'']) = some [] := by
    intro cs
    induction cs with
    | nil => rfl
    | cons c cs ih =>
      by_cases hc : c = '\''
      · subst hc
        simpa [quoteChar, outside?] using ih
      · simpa [quoteChar, hc, outside?_true_cons] using ih
  have hlist : (quote s).toList = '\'' :: (s.toList.flatMap quoteChar ++ ['\'']) := by
    simp [quote]
  rw [hlist, outside?_false_cons, if_pos rfl, hinside]

theorem unmatched_append (cs ds : List Char) : unmatched (cs ++ ds) =
    ((unmatched cs).1 + ((unmatched ds).1 - (unmatched cs).2),
      (unmatched ds).2 + ((unmatched cs).2 - (unmatched ds).1)) := by
  induction cs with
  | nil => simp [unmatched]
  | cons c cs ih =>
    simp only [List.cons_append, unmatched, ih]
    split
    · split <;> split <;> ext <;> simp <;> omega
    · split
      · ext <;> simp
        omega
      · rfl

theorem unmatched_of_notMem {cs : List Char} (ho : '(' ∉ cs) (hc : ')' ∉ cs) :
    unmatched cs = (0, 0) := by
  induction cs with
  | nil => rfl
  | cons c cs ih =>
    simp only [List.mem_cons, not_or] at ho hc
    simp [unmatched, ih ho.2 hc.2, Ne.symm ho.1, Ne.symm hc.1]

/-- A text whose literals are closed, with parentheses without a partner and with question marks. -/
def Shaped (text : String) (closing opening holes : Nat) : Prop :=
  ∃ os, outside? false text.toList = some os ∧ (∀ c ∈ os, isPlainChar c) ∧
    unmatched os = (closing, opening) ∧ os.count '?' = holes

/-- A text whose parentheses all have a partner. -/
abbrev Level (text : String) (holes : Nat) : Prop := Shaped text 0 0 holes

namespace Shaped

variable {s t : String} {a b c d m n : Nat}

theorem of_all {os : List Char} (hos : outside? false s.toList = some os)
    (hplain : os.all isPlainChar = true) (hunmatched : unmatched os = (a, b))
    (hcount : os.count '?' = m) : Shaped s a b m :=
  ⟨os, hos, List.all_eq_true.mp hplain, hunmatched, hcount⟩

theorem append (hs : Shaped s a b m) (ht : Shaped t c d n) :
    Shaped (s ++ t) (a + (c - b)) (d + (b - c)) (m + n) := by
  obtain ⟨os, hos, hplain, hunmatched, hcount⟩ := hs
  obtain ⟨ps, hps, hplain', hunmatched', hcount'⟩ := ht
  refine ⟨os ++ ps, ?_, ?_, ?_, ?_⟩
  · rw [String.toList_append, outside?_append hos, hps]
    rfl
  · intro x hx
    rcases List.mem_append.mp hx with hx | hx
    · exact hplain x hx
    · exact hplain' x hx
  · rw [unmatched_append, hunmatched, hunmatched']
  · rw [List.count_append, hcount, hcount']

theorem empty : Level "" 0 := ⟨[], rfl, by simp, rfl, rfl⟩

end Shaped

theorem Level.append {s t : String} {m n : Nat} (hs : Level s m) (ht : Level t n) :
    Level (s ++ t) (m + n) := Shaped.append hs ht

theorem level_identifier {s : String} (h : isIdentifier s) : Level s 0 := by
  have hchar : ∀ c ∈ s.toList, isIdentifierChar c := fun c hc => isIdentifierChar_of_mem h hc
  have hnot : ∀ c, isIdentifierChar c = false → c ∉ s.toList := by
    intro c hc hmem
    rw [hchar c hmem] at hc
    exact absurd hc (by decide)
  refine ⟨s.toList, outside?_of_notMem (hnot _ (by decide)), fun c hc => ?_,
    unmatched_of_notMem (hnot _ (by decide)) (hnot _ (by decide)),
    List.count_eq_zero_of_not_mem (hnot _ (by decide))⟩
  simp [isPlainChar, hchar c hc]

theorem level_column {c : Column} (hq : isIdentifier c.qualifier) (hn : isIdentifier c.name) :
    Level c.text 0 :=
  ((level_identifier hq).append (t := ".") (.of_all rfl rfl rfl rfl)).append (level_identifier hn)

theorem level_quote (s : String) : Level (quote s) 0 :=
  ⟨[], outside?_quote s, by simp, rfl, rfl⟩

end AspectQuery.Sql
