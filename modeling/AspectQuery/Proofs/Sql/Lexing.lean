import AspectQuery.Proofs.Sql.Reading
/-!
# Lexemes of texts that are put together

A sharp symbol belongs to no lexeme that begins before it or ends behind it, other than a literal.
Where the one text ends with a sharp symbol or the other one begins with one, the lexemes of both
texts together are those of the one and those of the other. The same holds of the values for their
placeholders.
-/

set_option autoImplicit false

namespace AspectQuery.Sql

namespace Symbol

/-- An operand, or one of the signs that are lexemes by themselves, or a blank. -/
def sharp : Symbol → Bool
  | .operand _ => true
  | .char c => c == ' ' || c == '(' || c == ')' || c == ',' || c == '?'

theorem sharp_char {c : Char} (h : sharp (.char c)) :
    c = ' ' ∨ c = '(' ∨ c = ')' ∨ c = ',' ∨ c = '?' := by
  simpa [sharp, or_assoc] using h

end Symbol

namespace Mode

/-- No lexeme but a literal goes on with a sharp character. -/
theorem extend?_of_sharp {m : Mode} {c : Char} {ls : List Lexeme} (hm : m.finish? = some ls)
    (hc : Symbol.sharp (.char c)) : m.extend? c = none := by
  have hchars := Symbol.sharp_char hc
  cases m with
  | blank => rfl
  | word cs => rcases hchars with rfl | rfl | rfl | rfl | rfl <;> rfl
  | relation cs => rcases hchars with rfl | rfl | rfl | rfl | rfl <;> rfl
  | literal cs => simp [finish?] at hm
  | quote cs => rcases hchars with rfl | rfl | rfl | rfl | rfl <;> rfl

theorem begin?_of_sharp {c : Char} (hc : Symbol.sharp (.char c)) :
    ∃ ls, begin? c = some (ls, .blank) := by
  rcases Symbol.sharp_char hc with rfl | rfl | rfl | rfl | rfl <;> exact ⟨_, rfl⟩

/-- A sharp symbol ends what is being read, and is read as if nothing stood before it. -/
theorem step?_of_sharp {m : Mode} {s : Symbol} {ls : List Lexeme} (hm : m.finish? = some ls)
    (hs : s.sharp) :
    ∃ ks, step? .blank s = some (ks, .blank) ∧ m.step? s = some (ls ++ ks, .blank) := by
  cases s with
  | operand x => exact ⟨[.operand x], rfl, by simp [step?, hm]⟩
  | char c =>
    obtain ⟨ks, hks⟩ := begin?_of_sharp hs
    refine ⟨ks, by simp [step?, extend?, finish?, hks], ?_⟩
    simp [step?, extend?_of_sharp hm hs, hm, hks]

theorem eq_blank_of_step?_sharp {m n : Mode} {s : Symbol} {ls ks : List Lexeme} (hs : s.sharp)
    (h : m.step? s = some (ls, n)) (hn : n.finish? = some ks) : n = .blank := by
  cases hm : m.finish? with
  | some ds =>
    obtain ⟨_, -, hstep⟩ := step?_of_sharp hm hs
    rw [hstep, Option.some.injEq, Prod.mk.injEq] at h
    exact h.2.symm
  | none =>
    cases s with
    | operand x => simp [step?, hm] at h
    | char c =>
      cases m with
      | literal cs =>
        have hquote : c ≠ '\'' := by
          intro hc
          subst hc
          exact absurd hs (by decide)
        simp only [step?, extend?, if_neg hquote, Option.some.injEq, Prod.mk.injEq] at h
        rw [← h.2] at hn
        simp [finish?] at hn
      | relation cs =>
        have hext : (relation cs).extend? c = none := by
          rcases Symbol.sharp_char hs with rfl | rfl | rfl | rfl | rfl <;> rfl
        simp [step?, hext, hm] at h
      | _ => simp [finish?] at hm

end Mode

theorem scan_append (m : Mode) (ss ts : List Symbol) :
    scan m (ss ++ ts) = (scan m ss).bind fun (ls, n) =>
      (scan n ts).map fun (ks, n) => (ls ++ ks, n) := by
  induction ss generalizing m with
  | nil => simp [scan]
  | cons s ss ih =>
    simp only [List.cons_append, scan, ih]
    cases m.step? s with
    | none => rfl
    | some step =>
      obtain ⟨ls, n⟩ := step
      cases hrest : scan n ss with
      | none => simp [hrest]
      | some rest => cases hts : scan rest.2 ts <;> simp [hrest, hts]

theorem lexemes?_eq_some {ss : List Symbol} {ls : List Lexeme} :
    lexemes? ss = some ls ↔ ∃ done m rest, scan .blank ss = some (done, m) ∧
      m.finish? = some rest ∧ done ++ rest = ls := by
  simp only [lexemes?, Option.bind_eq_bind, Option.bind_eq_some_iff, Option.pure_def,
    Option.some.injEq, Prod.exists]
  constructor
  · rintro ⟨done, m, hscan, rest, hrest, rfl⟩
    exact ⟨done, m, rest, hscan, hrest, rfl⟩
  · rintro ⟨done, m, rest, hscan, hrest, rfl⟩
    exact ⟨done, m, hscan, rest, hrest, rfl⟩

theorem scan_of_lexemes?_sharp {ss : List Symbol} {s : Symbol} {ls : List Lexeme} (hs : s.sharp)
    (h : lexemes? (ss ++ [s]) = some ls) : scan .blank (ss ++ [s]) = some (ls, .blank) := by
  obtain ⟨done, m, rest, hscan, hrest, rfl⟩ := lexemes?_eq_some.mp h
  have hblank : m = .blank := by
    rw [scan_append] at hscan
    simp only [scan, Option.bind_eq_some_iff, Option.map_eq_some_iff, Prod.exists,
      Option.bind_eq_bind, Option.some.injEq, Prod.mk.injEq] at hscan
    obtain ⟨_, n, -, _, _, ⟨_, _, hstep, _, _, ⟨rfl, rfl⟩, -, rfl⟩, -, rfl⟩ := hscan
    exact Mode.eq_blank_of_step?_sharp hs hstep hrest
  subst hblank
  simp only [Mode.finish?, Option.some.injEq] at hrest
  rw [hscan, ← hrest, List.append_nil]

theorem lexemes?_append_of_last {ss ts : List Symbol} {ls ks : List Lexeme}
    (hss : lexemes? ss = some ls) (hts : lexemes? ts = some ks)
    (hlast : ∀ s ∈ ss.getLast?, s.sharp) : lexemes? (ss ++ ts) = some (ls ++ ks) := by
  have hscan : scan .blank ss = some (ls, .blank) := by
    rcases List.eq_nil_or_concat ss with rfl | ⟨init, s, rfl⟩
    · simpa [lexemes?, scan, Mode.finish?] using hss
    · rw [List.concat_eq_append] at hss hlast ⊢
      exact scan_of_lexemes?_sharp (hlast s (by simp)) hss
  obtain ⟨done, m, rest, hscan', hrest, rfl⟩ := lexemes?_eq_some.mp hts
  refine lexemes?_eq_some.mpr ⟨ls ++ done, m, rest, ?_, hrest, List.append_assoc ..⟩
  simp [scan_append, hscan, hscan']

theorem lexemes?_append_of_head {ss ts : List Symbol} {ls ks : List Lexeme}
    (hss : lexemes? ss = some ls) (hts : lexemes? ts = some ks)
    (hhead : ∀ s ∈ ts.head?, s.sharp) : lexemes? (ss ++ ts) = some (ls ++ ks) := by
  obtain ⟨done, m, rest, hscan, hrest, rfl⟩ := lexemes?_eq_some.mp hss
  cases ts with
  | nil =>
    simp only [lexemes?, scan, Option.bind_eq_bind, Option.bind_some, Mode.finish?,
      Option.pure_def, Option.some.injEq, List.append_nil] at hts
    simpa [← hts] using hss
  | cons s ts =>
    obtain ⟨done', m', rest', hscan', hrest', rfl⟩ := lexemes?_eq_some.mp hts
    obtain ⟨ks, hblank, hstep⟩ := Mode.step?_of_sharp hrest (hhead s (by simp))
    simp only [scan, hblank, Option.bind_eq_bind, Option.bind_some, Option.bind_eq_some_iff,
      Prod.exists] at hscan'
    obtain ⟨ms, n, htail, heq⟩ := hscan'
    obtain ⟨rfl, rfl⟩ := Prod.mk.inj (Option.some.inj heq)
    refine lexemes?_eq_some.mpr ⟨done ++ (rest ++ ks ++ ms), n, rest', ?_, hrest', ?_⟩
    · simp [scan_append, hscan, scan, hstep, htail]
    · simp

theorem supply_append {vs ws : List Value} {ls ls' ks ks' : List Lexeme}
    (hls : supply vs ls = some ls') (hks : supply ws ks = some ks') :
    supply (vs ++ ws) (ls ++ ks) = some (ls' ++ ks') := by
  fun_induction supply vs ls generalizing ls' with
  | case1 => simpa [← Option.some.inj hls] using hks
  | case2 => simp at hls
  | case3 v vs ls ih =>
    obtain ⟨ms, hms, rfl⟩ := Option.map_eq_some_iff.mp hls
    simp [supply, ih hms]
  | case4 => simp at hls
  | case5 vs l ls hne hne' ih =>
    obtain ⟨ms, hms, rfl⟩ := Option.map_eq_some_iff.mp hls
    have hl : l ≠ .placeholder := by
      intro heq
      cases vs with
      | nil => exact hne' rfl heq
      | cons v vs => exact hne v vs rfl heq
    rw [List.cons_append, supply, ih hms]
    · rfl
    · exact fun _ _ _ heq => hl heq
    · exact fun _ heq => hl heq

/-- The text is read as the lexemes, with the values for its placeholders. -/
def Spells (vs : List Value) (ss : List Symbol) (ls : List Lexeme) : Prop :=
  ∃ raw, lexemes? ss = some raw ∧ supply vs raw = some ls

namespace Spells

variable {vs ws : List Value} {ss ts : List Symbol} {ls ks : List Lexeme}

theorem append_of_last (hss : Spells vs ss ls) (hts : Spells ws ts ks)
    (hlast : ∀ s ∈ ss.getLast?, s.sharp) : Spells (vs ++ ws) (ss ++ ts) (ls ++ ks) := by
  obtain ⟨raw, hraw, hsupply⟩ := hss
  obtain ⟨raw', hraw', hsupply'⟩ := hts
  exact ⟨raw ++ raw', lexemes?_append_of_last hraw hraw' hlast, supply_append hsupply hsupply'⟩

theorem append_of_head (hss : Spells vs ss ls) (hts : Spells ws ts ks)
    (hhead : ∀ s ∈ ts.head?, s.sharp) : Spells (vs ++ ws) (ss ++ ts) (ls ++ ks) := by
  obtain ⟨raw, hraw, hsupply⟩ := hss
  obtain ⟨raw', hraw', hsupply'⟩ := hts
  exact ⟨raw ++ raw', lexemes?_append_of_head hraw hraw' hhead, supply_append hsupply hsupply'⟩

end Spells

theorem symbols_append (s t : String) : symbols (s ++ t) = symbols s ++ symbols t := by
  simp [symbols]

/-- Nothing that stands before the text goes on in it. -/
def sharpStart (text : String) : Bool := (symbols text).head?.any Symbol.sharp

/-- Nothing that stands in the text goes on behind it. -/
def sharpEnd (text : String) : Bool := (symbols text).getLast?.any Symbol.sharp

theorem sharp_of_sharpStart {text : String} (h : sharpStart text) (rest : List Symbol) :
    ∀ s ∈ (symbols text ++ rest).head?, s.sharp := by
  obtain ⟨s, hs, hsharp⟩ := (Option.any_eq_true _ _).mp h
  rw [List.head?_append, hs]
  rintro _ ⟨⟩
  exact hsharp

theorem sharp_of_sharpEnd {text : String} (h : sharpEnd text) :
    ∀ s ∈ (symbols text).getLast?, s.sharp := by
  obtain ⟨s, hs, hsharp⟩ := (Option.any_eq_true _ _).mp h
  rw [hs]
  rintro _ ⟨⟩
  exact hsharp

theorem sharpEnd_append (before : String) {text : String} (h : sharpEnd text) :
    sharpEnd (before ++ text) := by
  obtain ⟨s, hs, hsharp⟩ := (Option.any_eq_true _ _).mp h
  simp [sharpEnd, symbols_append, List.getLast?_append, hs, hsharp]

namespace Spells

variable {vs ws : List Value} {ss ts : List Symbol} {ls ks tl : List Lexeme} {text : String}

theorem opens (htext : Spells [] (symbols text) tl) (hend : sharpEnd text)
    (hss : Spells vs ss ls) : Spells vs (symbols text ++ ss) (tl ++ ls) :=
  htext.append_of_last hss (sharp_of_sharpEnd hend)

theorem closes (hss : Spells vs ss ls) (htext : Spells [] (symbols text) tl)
    (hstart : sharpStart text) : Spells vs (ss ++ symbols text) (ls ++ tl) := by
  have hhead := sharp_of_sharpStart hstart []
  rw [List.append_nil] at hhead
  simpa using hss.append_of_head htext hhead

theorem joins (hss : Spells vs ss ls) (htext : Spells [] (symbols text) tl)
    (hstart : sharpStart text) (hend : sharpEnd text) (hts : Spells ws ts ks) :
    Spells (vs ++ ws) (ss ++ (symbols text ++ ts)) (ls ++ (tl ++ ks)) :=
  hss.append_of_head (htext.opens hend hts) (sharp_of_sharpStart hstart _)

end Spells

section Words

theorem begin?_of_isWordChar {c : Char} (hc : isWordChar c) :
    Mode.begin? c = some ([], .word [c]) := by
  have hne : ∀ d, isWordChar d = false → c ≠ d := by
    intro d hd heq
    rw [heq, hd] at hc
    exact Bool.false_ne_true hc
  simp [Mode.begin?, hc, hne ' ' rfl, hne '(' rfl, hne ')' rfl, hne ',' rfl, hne '?' rfl,
    hne '\'' rfl]

theorem scan_word (cs ds : List Char) (hds : ∀ d ∈ ds, isWordChar d) :
    scan (.word cs) (ds.map .char) = some ([], .word (cs ++ ds)) := by
  induction ds generalizing cs with
  | nil => simp [scan]
  | cons d ds ih =>
    have hd := hds d List.mem_cons_self
    have hrest := ih (cs ++ [d]) fun e he => hds e (List.mem_cons_of_mem d he)
    simp [scan, Mode.step?, Mode.extend?, hd, hrest]

theorem lexemes?_word {cs : List Char} (hne : cs ≠ []) (hcs : ∀ c ∈ cs, isWordChar c) :
    lexemes? (cs.map .char) = some [.ofWord cs] := by
  cases cs with
  | nil => exact absurd rfl hne
  | cons c cs =>
    have hbegin := begin?_of_isWordChar (hcs c List.mem_cons_self)
    have hscan := scan_word [c] cs fun d hd => hcs d (List.mem_cons_of_mem c hd)
    simp [lexemes?, scan, Mode.step?, Mode.extend?, Mode.finish?, hbegin, hscan]

theorem isIdentifier_iff {s : String} : isIdentifier s ↔
    ∃ c cs, s.toList = c :: cs ∧ isIdentifierStart c ∧ ∀ d ∈ cs, isIdentifierChar d := by
  unfold isIdentifier
  cases s.toList with
  | nil => simp [isIdentifierChars]
  | cons c cs =>
    simp only [isIdentifierChars, Bool.and_eq_true, List.all_eq_true, List.cons.injEq]
    constructor
    · intro h
      exact ⟨c, cs, ⟨rfl, rfl⟩, h⟩
    · rintro ⟨_, _, ⟨rfl, rfl⟩, h⟩
      exact h

theorem isIdentifierChar_of_start {c : Char} (h : isIdentifierStart c) : isIdentifierChar c := by
  simp only [isIdentifierStart, isIdentifierChar, Char.isAlphanum, Bool.or_eq_true] at h ⊢
  rcases h with h | h
  · exact .inl (.inl h)
  · exact .inr h

theorem not_isDigit_of_start {c : Char} (h : isIdentifierStart c) : c.isDigit = false := by
  simp only [Char.isDigit, Bool.and_eq_false_iff, decide_eq_false_iff_not]
  simp only [isIdentifierStart, Bool.or_eq_true, beq_iff_eq] at h
  rcases h with h | rfl
  · refine .inr fun hle => ?_
    rcases (Bool.or_eq_true ..).mp h with h | h
    · exact absurd (UInt32.le_trans (of_decide_eq_true h).1 hle) (by decide)
    · have hge := of_decide_eq_true ((Bool.and_eq_true ..).mp h).1
      exact absurd (UInt32.le_trans hge hle) (by decide)
  · exact .inr (by decide)

theorem isIdentifierChar_of_mem {s : String} (hs : isIdentifier s) {c : Char}
    (hc : c ∈ s.toList) : isIdentifierChar c := by
  obtain ⟨d, ds, hlist, hd, hds⟩ := isIdentifier_iff.mp hs
  rw [hlist] at hc
  rcases List.mem_cons.mp hc with rfl | hc
  · exact isIdentifierChar_of_start hd
  · exact hds c hc

theorem isWordChar_of_mem {s : String} (hs : isIdentifier s) {c : Char} (hc : c ∈ s.toList) :
    isWordChar c := by
  simp [isWordChar, isIdentifierChar_of_mem hs hc]

theorem point_notMem {s : String} (hs : isIdentifier s) : '.' ∉ s.toList := fun h =>
  absurd (isIdentifierChar_of_mem hs h) (by decide)

theorem lexemes?_identifier {s : String} (hs : isIdentifier s) :
    lexemes? (symbols s) = some [.word s] := by
  obtain ⟨c, cs, hlist, hc, -⟩ := isIdentifier_iff.mp hs
  have hword := lexemes?_word (by simp [hlist]) fun d hd => isWordChar_of_mem hs hd
  rw [symbols, hword, Lexeme.ofWord, if_neg (by simp [hlist, not_isDigit_of_start hc]),
    if_neg (point_notMem hs), String.ofList_toList]

theorem lexemes?_column {c : Column} (hq : isIdentifier c.qualifier) (hn : isIdentifier c.name) :
    lexemes? (symbols c.text) = some [.operand (.cell c)] := by
  have hlist : c.text.toList = c.qualifier.toList ++ '.' :: c.name.toList := by
    simp [Column.text]
  have hword : ∀ d ∈ c.text.toList, isWordChar d := by
    intro d hd
    rw [hlist, List.mem_append, List.mem_cons] at hd
    rcases hd with hd | rfl | hd
    · exact isWordChar_of_mem hq hd
    · rfl
    · exact isWordChar_of_mem hn hd
  have hbefore : ∀ d ∈ c.qualifier.toList, decide (d ≠ '.') := by
    intro d hd
    exact decide_eq_true fun heq => point_notMem hq (heq ▸ hd)
  have hne : c.text.toList ≠ [] := by simp [hlist]
  rw [symbols, lexemes?_word hne hword, Lexeme.ofWord, hlist,
    if_neg (by simp [show Char.isDigit '.' = false from rfl]), if_pos (by simp),
    List.takeWhile_append_of_pos hbefore, List.dropWhile_append_of_pos hbefore]
  simp

theorem scan_literal (cs ds : List Char) :
    scan (.literal cs) ((ds.flatMap quoteChar).map .char ++ [.char '\'']) =
      some ([], .quote (cs ++ ds)) := by
  induction ds generalizing cs with
  | nil => simp [scan, Mode.step?, Mode.extend?]
  | cons d ds ih =>
    by_cases hd : d = '\''
    · simp [quoteChar, hd, scan, Mode.step?, Mode.extend?, ih]
    · simp [quoteChar, hd, scan, Mode.step?, Mode.extend?, ih]

theorem lexemes?_quote (s : String) : lexemes? (symbols (quote s)) = some [.literal s] := by
  have hlist : symbols (quote s) =
      .char '\'' :: ((s.toList.flatMap quoteChar).map .char ++ [.char '\'']) := by
    simp [symbols, quote]
  have hbegin : Mode.blank.step? (.char '\'') = some ([], .literal []) := rfl
  rw [hlist, lexemes?, scan, hbegin]
  simp [scan_literal, Mode.finish?]

theorem Spells.name {s : String} (hs : isIdentifier s) : Spells [] (symbols s) [.word s] :=
  ⟨_, lexemes?_identifier hs, rfl⟩

theorem Spells.cell {c : Column} (hq : isIdentifier c.qualifier) (hn : isIdentifier c.name) :
    Spells [] (symbols c.text) [.operand (.cell c)] :=
  ⟨_, lexemes?_column hq hn, rfl⟩

theorem Spells.quoted (s : String) : Spells [] (symbols (quote s)) [.literal s] :=
  ⟨_, lexemes?_quote s, rfl⟩

end Words


end AspectQuery.Sql
