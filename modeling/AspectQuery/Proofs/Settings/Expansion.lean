import AspectQuery.Proofs.Outcome
import AspectQuery.Proofs.Settings.Environment
import AspectQuery.Settings
import Mathlib.Data.List.TakeWhile
/-!
# Texts with variables

A text splits in one way into characters that stand for themselves and references to variables. It
is expanded by putting values in the places of the references, once and from left to right, or fails
with the name of the first variable that is not set or whose value is not a text.
-/

set_option autoImplicit false

namespace AspectQuery.Expansion

/-- What texts are made of. -/
inductive Token where
  | literal (c : Char)
  | braced (name : List Char)
  /-- A name after an opening brace that is never closed. -/
  | unclosed (name : List Char)
  | plain (name : List Char)
  /-- A dollar sign that stands for itself. -/
  | dollar

namespace Token

def text : Token → List Char
  | literal c => [c]
  | braced name => '$' :: '\x7b' :: (name ++ ['\x7d'])
  | unclosed name => '$' :: '\x7b' :: name
  | plain name => '$' :: name
  | dollar => ['$']

/-- The token may stand before `rest`: a name goes on to the next closing brace or to the end, and
without a brace for as long as there are characters of names. -/
def Fits (rest : List Char) : Token → Prop
  | literal c => c ≠ '$'
  | braced name => '\x7d' ∉ name
  | unclosed name => '\x7d' ∉ name ∧ rest = []
  | plain name => name ≠ [] ∧ (∀ c ∈ name, isNameChar c) ∧ ∀ c ∈ rest.head?, ¬isNameChar c
  | dollar => ∀ c ∈ rest.head?, c ≠ '\x7b' ∧ ¬isNameChar c

/-- Whatever follows, the token ends where it does. -/
def Closed : Token → Prop
  | literal _ => True
  | braced _ => True
  | unclosed _ => False
  | plain _ => False
  | dollar => False

def name? : Token → Option String
  | literal _ => none
  | braced name => some (String.ofList name)
  | unclosed name => some (String.ofList name)
  | plain name => some (String.ofList name)
  | dollar => none

/-- What stands in the place of the token; nothing does for a variable that is missing. -/
def value? (lookup? : String → Option String) (t : Token) : Option (List Char) :=
  match t.name? with
  | some name => (lookup? name).map String.toList
  | none => some t.text

def piece : Token → Piece
  | literal c => .literal c
  | braced name => .reference name
  | unclosed name => .reference name
  | plain name => .reference name
  | dollar => .literal '$'

end Token

/-- The tokens of a text. -/
inductive Splits : List Char → List Token → Prop
  | nil : Splits [] []
  | cons {t : Token} {cs : List Char} {ts : List Token} (ht : t.Fits cs) (h : Splits cs ts) :
    Splits (t.text ++ cs) (t :: ts)

/-- What becomes of a text with these tokens: their values one after another, or the name of the
first variable that is missing. -/
inductive Outcome (lookup? : String → Option String) (ts : List Token) : Except String String → Prop
  | text {values : List (List Char)} (h : ts.map (Token.value? lookup?) = values.map some) :
    Outcome lookup? ts (.ok (String.ofList values.flatten))
  | missing {before after : List Token} {t : Token} {name : String}
    (hts : ts = before ++ t :: after)
    (hbefore : ∀ u ∈ before, (u.value? lookup?).isSome) (hname : t.name? = some name)
    (h : lookup? name = none) : Outcome lookup? ts (.error name)

section Reading

variable {c : Char} {cs ds name rest : List Char} {t u : Token}

theorem pieces_literal (hc : c ≠ '$') (cs : List Char) :
    pieces (c :: cs) = .literal c :: pieces cs := by
  rw [pieces, if_neg hc]

theorem pieces_reference (h : reference? cs = some (name, rest)) :
    pieces ('$' :: cs) = .reference name :: pieces rest := by
  rw [pieces, if_pos rfl]
  grind

theorem pieces_dollar (h : reference? cs = none) :
    pieces ('$' :: cs) = .literal '$' :: pieces cs := by
  rw [pieces, if_pos rfl]
  grind

theorem takeWhile_append_head {p : Char → Bool} (hcs : ∀ c ∈ cs, p c)
    (hds : ∀ c ∈ ds.head?, ¬p c) :
    (cs ++ ds).takeWhile p = cs ∧ (cs ++ ds).dropWhile p = ds := by
  rw [List.takeWhile_append_of_pos hcs, List.dropWhile_append_of_pos hcs]
  cases ds with
  | nil => exact ⟨List.append_nil cs, rfl⟩
  | cons d ds =>
    have hd := hds d rfl
    simp [hd]

theorem takeWhile_append_stop {stop : Char} (hcs : stop ∉ cs) (hds : ∀ c ∈ ds.head?, c = stop) :
    (cs ++ ds).takeWhile (· != stop) = cs ∧ (cs ++ ds).dropWhile (· != stop) = ds :=
  takeWhile_append_head (fun c hc => bne_iff_ne.mpr (ne_of_mem_of_not_mem hc hcs))
    fun c hc => by simp [hds c hc]

theorem not_isNameChar_brace : ¬isNameChar '\x7b' := by decide +kernel

theorem reference?_of_ne (h : ∀ c ∈ cs.head?, c ≠ '\x7b') : reference? cs =
    if (cs.takeWhile isNameChar).isEmpty then none
    else some (cs.takeWhile isNameChar, cs.dropWhile isNameChar) := by
  unfold reference?
  split
  · exact absurd rfl (h _ rfl)
  · rfl

theorem reference?_plain (hne : name ≠ []) (hname : ∀ c ∈ name, isNameChar c)
    (hrest : ∀ c ∈ rest.head?, ¬isNameChar c) : reference? (name ++ rest) = some (name, rest) := by
  obtain ⟨htake, hdrop⟩ := takeWhile_append_head hname hrest
  obtain ⟨c, cs, rfl⟩ := List.exists_cons_of_ne_nil hne
  have hhead : ∀ d ∈ (c :: cs ++ rest).head?, d ≠ '\x7b' := by
    rintro d hd rfl
    obtain rfl := Option.some.inj hd
    exact not_isNameChar_brace (hname _ List.mem_cons_self)
  rw [reference?_of_ne hhead, htake, hdrop, if_neg nofun]

theorem reference?_dollar (hrest : ∀ c ∈ rest.head?, c ≠ '\x7b' ∧ ¬isNameChar c) :
    reference? rest = none := by
  have hnone : ∀ c ∈ ([] : List Char), isNameChar c := nofun
  obtain ⟨htake, -⟩ := takeWhile_append_head hnone fun c hc => (hrest c hc).2
  rw [reference?_of_ne fun c hc => (hrest c hc).1]
  exact if_pos (List.isEmpty_iff.mpr htake)

theorem reference?_brace (hname : '\x7d' ∉ name) (hrest : ∀ c ∈ rest.head?, c = '\x7d') :
    reference? ('\x7b' :: (name ++ rest)) = some (name, rest.tail) := by
  obtain ⟨htake, hdrop⟩ := takeWhile_append_stop hname hrest
  rw [reference?, htake, hdrop]

/-- The pieces of a text begin with the first of its tokens. -/
theorem pieces_append (ht : t.Fits rest) : pieces (t.text ++ rest) = t.piece :: pieces rest := by
  cases t with
  | literal c => exact pieces_literal ht rest
  | braced name =>
    have hrest : ∀ c ∈ ('\x7d' :: rest).head?, c = '\x7d' := by simp
    refine pieces_reference ?_
    simpa using reference?_brace ht hrest
  | unclosed name =>
    obtain ⟨hname, rfl⟩ := ht
    exact pieces_reference (reference?_brace hname nofun)
  | plain name => exact pieces_reference (reference?_plain ht.1 ht.2.1 ht.2.2)
  | dollar => exact pieces_dollar (reference?_dollar ht)

theorem pieces_of_splits {ts : List Token} (h : Splits cs ts) : pieces cs = ts.map Token.piece := by
  induction h with
  | nil => rw [pieces]; rfl
  | cons ht _ ih => rw [pieces_append ht, ih, List.map_cons]

/-- Different tokens are told apart by the text from them on. -/
theorem eq_of_append (ht : t.Fits cs) (hu : u.Fits ds) (h : t.text ++ cs = u.text ++ ds) :
    t = u := by
  have hpiece : t.piece = u.piece := by
    have hpieces := pieces_append ht
    rw [h, pieces_append hu] at hpieces
    exact (List.cons.inj hpieces).1.symm
  have hbrace : ∀ xs name ys, name ≠ [] → (∀ c ∈ name, isNameChar c) →
      '\x7b' :: xs ≠ name ++ ys := by
    intro xs name ys hne hname heq
    obtain ⟨c, cs, rfl⟩ := List.exists_cons_of_ne_nil hne
    exact not_isNameChar_brace ((List.cons.inj heq).1 ▸ hname c List.mem_cons_self)
  cases t with
  | literal c =>
    cases u with
    | literal d => rw [Piece.literal.inj hpiece]
    | dollar => exact absurd (Piece.literal.inj hpiece) ht
    | braced | unclosed | plain => cases hpiece
  | dollar =>
    cases u with
    | literal d => exact absurd (Piece.literal.inj hpiece).symm hu
    | dollar => rfl
    | braced | unclosed | plain => cases hpiece
  | braced name =>
    cases u with
    | literal | dollar => cases hpiece
    | braced => rw [Piece.reference.inj hpiece]
    | unclosed =>
      obtain rfl := Piece.reference.inj hpiece
      simp [Token.text, hu.2] at h
    | plain => exact absurd (List.cons.inj h).2 (hbrace _ _ _ hu.1 hu.2.1)
  | unclosed name =>
    cases u with
    | literal | dollar => cases hpiece
    | braced =>
      obtain rfl := Piece.reference.inj hpiece
      simp [Token.text, ht.2] at h
    | unclosed => rw [Piece.reference.inj hpiece]
    | plain => exact absurd (List.cons.inj h).2 (hbrace _ _ _ hu.1 hu.2.1)
  | plain name =>
    cases u with
    | literal | dollar => cases hpiece
    | braced => exact absurd (List.cons.inj h).2.symm (hbrace _ _ _ ht.1 ht.2.1)
    | unclosed => exact absurd (List.cons.inj h).2.symm (hbrace _ _ _ ht.1 ht.2.1)
    | plain => rw [Piece.reference.inj hpiece]

theorem text_ne_nil (t : Token) : t.text ≠ [] := by
  cases t <;> exact List.cons_ne_nil _ _

theorem exists_braced (inner : List Char) :
    ∃ (t : Token) (rest : List Char), t.Fits rest ∧ t.text ++ rest = '$' :: '\x7b' :: inner := by
  have hsplit := List.takeWhile_append_dropWhile (p := (· != '\x7d')) (l := inner)
  have hname : '\x7d' ∉ inner.takeWhile (· != '\x7d') := fun hmem =>
    absurd (List.mem_takeWhile_imp hmem) (by decide)
  have hhead := List.head?_dropWhile_not (· != '\x7d') inner
  cases hrest : inner.dropWhile (· != '\x7d') with
  | nil =>
    rw [hrest, List.append_nil] at hsplit
    rw [hsplit] at hname
    exact ⟨.unclosed inner, [], ⟨hname, rfl⟩, List.append_nil _⟩
  | cons d rest =>
    rw [hrest] at hsplit hhead
    obtain rfl : d = '\x7d' := by simpa using hhead
    exact ⟨.braced _, rest, hname, by simpa [Token.text] using hsplit⟩

theorem exists_unbraced (hbrace : ∀ c ∈ cs.head?, c ≠ '\x7b') :
    ∃ (t : Token) (rest : List Char), t.Fits rest ∧ t.text ++ rest = '$' :: cs := by
  have hsplit := List.takeWhile_append_dropWhile (p := isNameChar) (l := cs)
  have hhead : ∀ c ∈ (cs.dropWhile isNameChar).head?, ¬isNameChar c := by
    intro c hc
    have hnot := List.head?_dropWhile_not isNameChar cs
    rw [hc] at hnot
    simpa using hnot
  by_cases hname : cs.takeWhile isNameChar = []
  · rw [hname, List.nil_append] at hsplit
    rw [hsplit] at hhead
    exact ⟨.dollar, cs, fun c hc => ⟨hbrace c hc, hhead c hc⟩, rfl⟩
  · exact ⟨.plain _, _, ⟨hname, fun c hc => List.mem_takeWhile_imp hc, hhead⟩,
      congrArg (List.cons '$') hsplit⟩

theorem exists_token (c : Char) (cs : List Char) :
    ∃ (t : Token) (rest : List Char), t.Fits rest ∧ t.text ++ rest = c :: cs := by
  by_cases hc : c = '$'
  · subst hc
    by_cases hbrace : ∀ c ∈ cs.head?, c ≠ '\x7b'
    · exact exists_unbraced hbrace
    · obtain ⟨inner, rfl⟩ : ∃ inner, cs = '\x7b' :: inner := by
        simpa [List.head?_eq_some_iff] using hbrace
      exact exists_braced inner
  · exact ⟨.literal c, cs, hc, rfl⟩

end Reading

section Splitting

variable {cs ds : List Char} {ts us : List Token} {t : Token}

theorem exists_splits (cs : List Char) : ∃ ts, Splits cs ts := by
  induction hn : cs.length using Nat.strong_induction_on generalizing cs with
  | h n ih =>
    subst hn
    cases cs with
    | nil => exact ⟨[], .nil⟩
    | cons c cs =>
      obtain ⟨t, rest, ht, heq⟩ := exists_token c cs
      have hlength : rest.length < (c :: cs).length := by
        rw [← heq, List.length_append]
        exact Nat.lt_add_of_pos_left (List.length_pos_iff.mpr (text_ne_nil t))
      obtain ⟨ts, hts⟩ := ih _ hlength rest rfl
      exact ⟨t :: ts, heq ▸ .cons ht hts⟩

theorem Splits.unique (h : Splits cs ts) (h' : Splits cs us) : us = ts := by
  induction h generalizing us with
  | nil =>
    generalize hcs : [] = cs at h'
    cases h' with
    | nil => rfl
    | cons => exact absurd (List.append_eq_nil_iff.mp hcs.symm).1 (text_ne_nil _)
  | @cons t cs ts ht _ ih =>
    generalize hcs : t.text ++ cs = ds at h'
    cases h' with
    | nil => exact absurd (List.append_eq_nil_iff.mp hcs).1 (text_ne_nil t)
    | cons hu h' =>
      obtain rfl := eq_of_append ht hu hcs
      obtain rfl := List.append_cancel_left hcs
      rw [ih h']

theorem Token.Fits.append (ht : t.Fits cs) (hmore : t.Closed ∨ cs ≠ []) (more : List Char) :
    t.Fits (cs ++ more) := by
  have hhead : cs ≠ [] → (cs ++ more).head? = cs.head? := by
    intro hne
    obtain ⟨c, cs, rfl⟩ := List.exists_cons_of_ne_nil hne
    rfl
  cases t with
  | literal c => exact ht
  | braced name => exact ht
  | unclosed name => exact absurd ht.2 (hmore.resolve_left id)
  | plain name =>
    rw [Fits, hhead (hmore.resolve_left id)]
    exact ht
  | dollar =>
    rw [Fits, hhead (hmore.resolve_left id)]
    exact ht

theorem Splits.ne_nil (h : Splits cs ts) (hts : ts ≠ []) : cs ≠ [] := by
  cases h with
  | nil => exact absurd rfl hts
  | cons => exact fun heq => text_ne_nil _ (List.append_eq_nil_iff.mp heq).1

/-- Two texts that are put together split as they do alone, unless the last token of the first one
is still open. -/
theorem Splits.append (h : Splits cs ts) (hclosed : ∀ t ∈ ts.getLast?, t.Closed)
    (h' : Splits ds us) : Splits (cs ++ ds) (ts ++ us) := by
  induction h with
  | nil => exact h'
  | @cons t cs ts ht h ih =>
    rw [List.append_assoc, List.cons_append]
    cases ts with
    | nil => exact .cons (ht.append (.inl (hclosed t rfl)) ds) (ih nofun)
    | cons u ts =>
      exact .cons (ht.append (.inr (h.ne_nil (List.cons_ne_nil u ts))) ds) (ih hclosed)

end Splitting

section Values

variable {lookup? : String → Option String} {ts : List Token} {t : Token}

theorem expand_piece_eq_ok {cs : List Char} :
    t.piece.expand lookup? = .ok cs ↔ t.value? lookup? = some cs := by
  cases t with
  | literal | dollar => simp [Token.piece, Piece.expand, Token.value?, Token.name?, Token.text]
  | braced name | unclosed name | plain name =>
    simp only [Token.piece, Piece.expand, Token.value?, Token.name?]
    cases lookup? (String.ofList name) <;> simp

theorem expand_piece_eq_error {name : String} :
    t.piece.expand lookup? = .error name ↔ t.name? = some name ∧ lookup? name = none := by
  cases t with
  | literal | dollar => simp [Token.piece, Piece.expand, Token.name?]
  | braced cs | unclosed cs | plain cs =>
    simp only [Token.piece, Piece.expand, Token.name?, Option.some.injEq]
    by_cases hname : String.ofList cs = name
    · subst hname
      cases lookup? (String.ofList cs) <;> simp
    · cases lookup? (String.ofList cs) <;> simp [hname]

theorem mapM_expand_eq_ok {values : List (List Char)} :
    (ts.map Token.piece).mapM (Piece.expand lookup?) = .ok values ↔
      ts.map (Token.value? lookup?) = values.map some := by
  induction ts generalizing values with
  | nil =>
    constructor
    · intro h
      rw [← pure_eq_ok.mp h]
      rfl
    · intro h
      rw [List.map_eq_nil_iff.mp h.symm]
      rfl
  | cons t ts ih =>
    rw [List.map_cons, mapM_cons_eq_ok]
    simp only [expand_piece_eq_ok, ih]
    constructor
    · rintro ⟨cs, hcs, values, hvalues, rfl⟩
      rw [List.map_cons, hcs, hvalues, List.map_cons]
    · intro h
      cases values with
      | nil => cases h
      | cons cs values =>
        obtain ⟨hcs, hvalues⟩ := List.cons.inj h
        exact ⟨cs, hcs, values, hvalues, rfl⟩

theorem mapM_expand_eq_error {name : String} :
    (ts.map Token.piece).mapM (Piece.expand lookup?) = .error name ↔
      ∃ before t after, ts = before ++ t :: after ∧
        (∀ u ∈ before, (u.value? lookup?).isSome) ∧ t.name? = some name ∧ lookup? name = none := by
  rw [mapM_eq_error]
  constructor
  · rintro ⟨before, x, after, hpieces, hbefore, hx⟩
    obtain ⟨before, rest, rfl, rfl, hrest⟩ := List.map_eq_append_iff.mp hpieces
    obtain ⟨t, after, rfl, rfl, rfl⟩ := List.map_eq_cons_iff.mp hrest
    refine ⟨before, t, after, rfl, fun u hu => ?_, expand_piece_eq_error.mp hx⟩
    obtain ⟨cs, hcs⟩ := hbefore _ (List.mem_map_of_mem hu)
    rw [expand_piece_eq_ok.mp hcs]
    rfl
  · rintro ⟨before, t, after, rfl, hbefore, ht⟩
    refine ⟨before.map Token.piece, t.piece, after.map Token.piece, by simp, ?_,
      expand_piece_eq_error.mpr ht⟩
    rw [List.forall_mem_map]
    intro u hu
    obtain ⟨cs, hcs⟩ := Option.isSome_iff_exists.mp (hbefore u hu)
    exact ⟨cs, expand_piece_eq_ok.mpr hcs⟩

theorem expand_eq_iff {s : String} (h : Splits s.toList ts) {r : Except String String} :
    expand lookup? s = r ↔ Outcome lookup? ts r := by
  rw [expand, pieces_of_splits h]
  cases r with
  | ok value =>
    simp only [bind_eq_ok, pure_eq_ok, mapM_expand_eq_ok]
    constructor
    · rintro ⟨values, hvalues, rfl⟩
      exact .text hvalues
    · rintro ⟨hvalues⟩
      exact ⟨_, hvalues, rfl⟩
  | error name =>
    simp only [bind_eq_error, pure_eq_error, and_false, exists_false, or_false,
      mapM_expand_eq_error]
    constructor
    · rintro ⟨before, t, after, hts, hbefore, hname, hmissing⟩
      exact .missing hts hbefore hname hmissing
    · rintro (_ | ⟨hts, hbefore, hname, hmissing⟩)
      exact ⟨_, _, _, hts, hbefore, hname, hmissing⟩

theorem expand_append {s : String} (h : Splits s.toList ts) (hclosed : ∀ t ∈ ts.getLast?, t.Closed)
    (more : String) : expand lookup? (s ++ more) =
      do return (← expand lookup? s) ++ (← expand lookup? more) := by
  obtain ⟨us, hus⟩ := exists_splits more.toList
  have happend := h.append hclosed hus
  rw [← String.toList_append] at happend
  simp only [expand, pieces_of_splits happend, pieces_of_splits h, pieces_of_splits hus,
    List.map_append, List.mapM_append]
  cases (ts.map Token.piece).mapM (Piece.expand lookup?) with
  | error name => rfl
  | ok values =>
    cases (us.map Token.piece).mapM (Piece.expand lookup?) with
    | error name => rfl
    | ok others =>
      show Except.ok (String.ofList (values ++ others).flatten) = _
      rw [List.flatten_append, String.ofList_append]
      rfl

end Values

/-- A text is a row of tokens in one way, and is expanded to what becomes of these in the
environment, in which a variable is missing if it is not set or its value is not a text. More text
after it changes nothing, unless its last token is still open. -/
theorem expand_substitutes (environment : Environment) (s : String) :
    ∃ ts, Splits s.toList ts ∧ (∀ us, Splits s.toList us → us = ts) ∧
      (∀ r, expand environment.text? s = r ↔ Outcome environment.text? ts r) ∧
      environment.Reads ∧
      (∀ settings : Settings, settings.database = some s →
        (∀ path, settings.resolvedDatabase environment.text? = .ok path ↔
          ∃ value, path = some value ∧ Outcome environment.text? ts (.ok value)) ∧
        ∀ e, settings.resolvedDatabase environment.text? = .error e ↔
          ∃ name, e = .missingVariable name ∧ Outcome environment.text? ts (.error name)) ∧
      ((∀ t ∈ ts.getLast?, t.Closed) → ∀ more, expand environment.text? (s ++ more) = do
        return (← expand environment.text? s) ++ (← expand environment.text? more)) := by
  obtain ⟨ts, hts⟩ := exists_splits s.toList
  refine ⟨ts, hts, fun us => hts.unique, fun r => expand_eq_iff hts, environment.reads,
    fun settings hdatabase => ?_, fun hclosed => expand_append hts hclosed⟩
  simp only [Settings.resolvedDatabase, hdatabase, ← expand_eq_iff hts]
  cases expand environment.text? s with
  | ok value => simp [Except.mapError, Except.map, eq_comm]
  | error name => simp [Except.mapError, Except.map, eq_comm]

/-- A variable is missing although it is set, and a name that no variable has goes on into the value
of one. -/
theorem missing_although_set :
    let latin : Environment := .ofTable [("A", [0xe9])]
    let nested : Environment := .ofTable [("A", Utf8.encode "B=c")]
    (references "$A" = ["A"] ∧ latin.value? "A" = some [0xe9] ∧
      expand latin.text? "$A" = .error "A") ∧
    (references "$\x7bA=B\x7d" = ["A=B"] ∧ expand nested.text? "$\x7bA=B\x7d" = .ok "c") := by
  decide +kernel

/-- Values are not looked at again. -/
example : (expand (valueOf? [("A", "$B"), ("B", "\x7d")]) "$A$\x7bB\x7d$-$").toOption =
    some "$B\x7d$-$" := by decide +kernel

end AspectQuery.Expansion
