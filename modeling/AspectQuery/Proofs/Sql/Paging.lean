import AspectQuery.Proofs.Sql.Page
import Mathlib.Algebra.Group.Int.Defs
import Mathlib.Algebra.Group.Nat.Defs
/-!
# What the clause of a page selects

Each dialect reads the clause by rules of its own. SQLite takes a negative limit for none and skips
nothing for a negative offset; the other dialects refuse negative numbers. Row counts from `2 ^ 63`
on are written as negative numbers. A page is the wanted one where this does not show.
-/

set_option autoImplicit false

namespace AspectQuery.Sql

/-- The texts between the blanks of a text. -/
def words (text : String) : List String := (text.toList.splitOn ' ').map String.ofList

def natural? (cs : List Char) : Option Nat :=
  if !cs.isEmpty && cs.all Char.isDigit then some (Nat.ofDigitChars 10 cs 0) else none

/-- The number of a word; a negative one has a minus sign in front. -/
def integer? (w : String) : Option Int :=
  match w.toList with
  | '-' :: cs => (natural? cs).map fun n : Nat => -(n : Int)
  | cs => (natural? cs).map Int.ofNat

/-- The numbers in the clause of a page. -/
structure PageNumbers where
  limit : Option Int := none
  offset : Option Int := none

namespace PageNumbers

def isNegative (n : PageNumbers) : Bool := n.limit.any (· < 0) || n.offset.any (· < 0)

/-- A negative offset skips nothing, and a negative limit is none. -/
def select {α : Type} (n : PageNumbers) (rows : List α) : List α :=
  let rest := rows.drop (n.offset.getD 0).toNat
  match n.limit with
  | none => rest
  | some l => if l < 0 then rest else rest.take l.toNat

end PageNumbers

namespace Dialect

/-- The numbers of a clause by its words. In SQLite there is no offset without a limit, and in
T-SQL no limit without an offset. -/
def numbersOfWords? : Dialect → List String → Option PageNumbers
  | .tsql, ["OFFSET", o, "ROWS"] => (integer? o).map fun o => ⟨none, some o⟩
  | .tsql, ["OFFSET", o, "ROWS", "FETCH", "NEXT", l, "ROWS", "ONLY"] =>
    (integer? o).bind fun o => (integer? l).map fun l => ⟨some l, some o⟩
  | .tsql, _ => none
  | .postgres, ["OFFSET", o] => (integer? o).map fun o => ⟨none, some o⟩
  | _, ["LIMIT", l] => (integer? l).map fun l => ⟨some l, none⟩
  | _, ["LIMIT", l, "OFFSET", o] =>
    (integer? l).bind fun l => (integer? o).map fun o => ⟨some l, some o⟩
  | _, _ => none

/-- An empty clause asks for the whole result. -/
def pageNumbers? (d : Dialect) (clause : String) : Option PageNumbers :=
  if clause = "" then some {} else d.numbersOfWords? (words clause)

/-- Only the rules for negative numbers are read here. SQL Server does not take `FETCH NEXT 0`
either. -/
def refuses : Dialect → PageNumbers → Bool
  | .sqlite, _ => false
  | _, n => n.isNegative

/-- What a dialect selects by a clause, unless it refuses it. -/
def select? {α : Type} (d : Dialect) (clause : String) (rows : List α) : Option (List α) :=
  (d.pageNumbers? clause).bind fun n => if d.refuses n then none else some (n.select rows)

end Dialect

/-- The rows behind the first `offset` ones, and of these no more than `limit`. -/
def pageOf {α : Type} (limit offset : Option UInt64) (rows : List α) : List α :=
  let rest := rows.drop (offset.elim 0 UInt64.toNat)
  limit.elim rest fun n => rest.take n.toNat

/-- A row count, if there is one, that is also a signed number of 64 bits. -/
def Signable (n : Option UInt64) : Prop := ∀ c ∈ n, c.toNat < 2 ^ 63

theorem signable_none : Signable none := fun _ h => nomatch h

theorem signable_some {n : UInt64} : Signable (some n) ↔ n.toNat < 2 ^ 63 :=
  ⟨fun h => h n rfl, fun h _ hc => Option.some.inj hc ▸ h⟩

-- The instance that a search may find for the definition tries all row counts.
instance : (n : Option UInt64) → Decidable (Signable n)
  | none => isTrue signable_none
  | some _ => decidable_of_iff _ signable_some.symm

section Words

variable {w : String}

theorem words_singleton (hw : ' ' ∉ w.toList) : words w = [w] := by
  have hnot : ∀ c ∈ w.toList, (c == ' ') = false := by
    intro c hc
    exact beq_false_of_ne fun h => hw (h ▸ hc)
  simp [words, List.splitOn, List.splitOnP_eq_singleton hnot]

theorem words_cons (hw : ' ' ∉ w.toList) (rest : String) :
    words (w ++ (" " ++ rest)) = w :: words rest := by
  have hnot : ∀ c ∈ w.toList, (c == ' ') = false := by
    intro c hc
    exact beq_false_of_ne fun h => hw (h ▸ hc)
  have hlist : (w ++ (" " ++ rest)).toList = w.toList ++ ' ' :: rest.toList := by simp
  rw [words, List.splitOn, hlist, List.splitOnP_append_cons_of_forall_mem hnot ' ' rfl]
  simp [words, List.splitOn]

theorem blank_notMem_repr (i : Int) : ' ' ∉ i.repr.toList := by
  have hdigits : ∀ n : Nat, ' ' ∉ n.repr.toList :=
    fun n hn => absurd (isDigit_of_mem_repr hn) (by decide)
  cases i with
  | ofNat n => exact hdigits n
  | negSucc n =>
    rw [toList_repr_negSucc, List.mem_cons, not_or]
    exact ⟨by decide, hdigits (n + 1)⟩

theorem natural?_repr (n : Nat) : natural? n.repr.toList = some n := by
  have hall : n.repr.toList.all Char.isDigit := List.all_eq_true.mpr fun _ => isDigit_of_mem_repr
  have hne : n.repr.toList.isEmpty = false := by
    rw [Nat.toList_repr]
    exact List.isEmpty_eq_false_iff.mpr Nat.toDigits_ne_nil
  have hvalue : Nat.ofDigitChars 10 n.repr.toList 0 = n := by
    rw [Nat.toList_repr]
    exact Nat.ofDigitChars_toDigits (by omega) (by omega)
  rw [natural?, hne, hall, hvalue]
  rfl

theorem integer?_repr (i : Int) : integer? i.repr = some i := by
  cases i with
  | ofNat n =>
    have htext : (Int.ofNat n).repr = n.repr := rfl
    have hminus : ∀ cs, n.repr.toList ≠ '-' :: cs := by
      intro cs h
      have hmem : '-' ∈ n.repr.toList := h ▸ List.mem_cons_self
      exact absurd (isDigit_of_mem_repr hmem) (by decide)
    rw [integer?, htext]
    split
    · rename_i cs h
      exact absurd h (hminus cs)
    · rw [natural?_repr]
      rfl
  | negSucc n =>
    rw [integer?, toList_repr_negSucc]
    show (natural? (n + 1).repr.toList).map _ = _
    rw [natural?_repr]
    rfl

end Words

section Written

/-- The number that a row count is written as. -/
def signed (n : UInt64) : Int := n.toInt64.toInt

theorem signed_eq (n : UInt64) :
    signed n = if n.toNat < 2 ^ 63 then (n.toNat : Int) else n.toNat - 2 ^ 64 := by
  have hvalue : signed n = n.toBitVec.toInt := rfl
  have hnat : n.toBitVec.toNat = n.toNat := rfl
  rw [hvalue, BitVec.toInt_eq_toNat_cond, hnat]
  split <;> split <;> omega

/-- The numbers that a page is written with. -/
def Dialect.written : Dialect → Option UInt64 → Option UInt64 → PageNumbers
  | _, none, none => {}
  | .sqlite, limit, offset => ⟨some ((limit.map signed).getD (-1)), offset.map signed⟩
  | .postgres, limit, offset => ⟨limit.map signed, offset.map signed⟩
  | .tsql, limit, offset => ⟨limit.map signed, some ((offset.map signed).getD 0)⟩

/-- The words of a clause with these numbers. -/
def Dialect.clauseWords : Dialect → PageNumbers → List Token
  | .tsql, n =>
    (n.offset.elim [] fun o => [.keyword .offset, .integer o, .keyword .rows]) ++
      n.limit.elim [] fun l =>
        [.keyword .fetch, .keyword .next, .integer l, .keyword .rows, .keyword .only]
  | _, n =>
    (n.limit.elim [] fun l => [.keyword .limit, .integer l]) ++
      n.offset.elim [] fun o => [.keyword .offset, .integer o]

theorem page_eq (d : Dialect) (limit offset : Option UInt64) :
    d.page limit offset = (d.clauseWords (d.written limit offset)).intersperse .space := by
  cases d <;> cases limit <;> cases offset <;> rfl

def IsWord (w : String) : Prop := w ≠ "" ∧ ' ' ∉ w.toList

theorem isWord_repr (i : Int) : IsWord i.repr := by
  refine ⟨fun h => ?_, blank_notMem_repr i⟩
  have hread := integer?_repr i
  rw [h] at hread
  simp [integer?, natural?] at hread

/-- The tokens of which a clause is made, blanks apart. -/
def isClauseWord : Token → Bool
  | .integer _ => true
  | .keyword k => k ∈ [.limit, .offset, .rows, .fetch, .next, .only]
  | _ => false

theorem isWord_of_isClauseWord {t : Token} (h : isClauseWord t) : IsWord t.text := by
  cases t with
  | integer i => exact isWord_repr i
  | keyword k => cases k <;> first | exact ⟨by decide, by decide⟩ | simp [isClauseWord] at h
  | _ => simp [isClauseWord] at h

theorem isClauseWord_clauseWords (d : Dialect) (n : PageNumbers) :
    (d.clauseWords n).all isClauseWord := by
  obtain ⟨limit, offset⟩ := n
  cases d <;> cases limit <;> cases offset <;> rfl

theorem words_render {ts : List Token} (hne : ts ≠ []) (hts : ts.all isClauseWord) :
    words (Token.render (ts.intersperse .space)) = ts.map Token.text := by
  induction ts with
  | nil => exact absurd rfl hne
  | cons t ts ih =>
    rw [List.all_cons, Bool.and_eq_true] at hts
    have hblank := (isWord_of_isClauseWord hts.1).2
    cases ts with
    | nil =>
      rw [List.intersperse_singleton, render_cons, Token.render_nil, String.append_empty]
      exact words_singleton hblank
    | cons u us =>
      have hrest := ih (by simp) hts.2
      rw [List.intersperse_cons_cons, render_cons, render_cons]
      rw [show Token.space.text = " " from rfl, words_cons hblank, hrest]
      rfl

theorem render_ne_empty {ts : List Token} (hne : ts ≠ []) (hts : ts.all isClauseWord) :
    Token.render (ts.intersperse .space) ≠ "" := by
  intro h
  have hwords := words_render hne hts
  rw [h] at hwords
  obtain ⟨t, ts, rfl⟩ := List.exists_cons_of_ne_nil hne
  rw [List.all_cons, Bool.and_eq_true] at hts
  have hfirst := (isWord_of_isClauseWord hts.1).1
  simp only [List.map_cons, show words "" = [""] from rfl, List.cons.injEq] at hwords
  exact hfirst hwords.1.symm

theorem numbersOfWords?_clauseWords {d : Dialect} {limit offset : Option UInt64}
    (hne : d.clauseWords (d.written limit offset) ≠ []) :
    d.numbersOfWords? ((d.clauseWords (d.written limit offset)).map Token.text) =
      some (d.written limit offset) := by
  cases d <;> cases limit <;> cases offset <;>
    first
      | exact absurd rfl hne
      | simp [Dialect.clauseWords, Dialect.written, Dialect.numbersOfWords?, Token.text,
          Keyword.text, integer?_repr]

/-- The clause is read as the numbers that it was written with. -/
theorem pageNumbers?_page (d : Dialect) (limit offset : Option UInt64) :
    d.pageNumbers? (Token.render (d.page limit offset)) = some (d.written limit offset) := by
  rw [page_eq]
  by_cases hne : d.clauseWords (d.written limit offset) = []
  · have hnone : limit = none ∧ offset = none := by
      cases d <;> cases limit <;> cases offset <;>
        simp [Dialect.clauseWords, Dialect.written] at hne ⊢
    obtain ⟨rfl, rfl⟩ := hnone
    cases d <;> rfl
  · have hall := isClauseWord_clauseWords d (d.written limit offset)
    rw [Dialect.pageNumbers?, if_neg (render_ne_empty hne hall), words_render hne hall]
    exact numbersOfWords?_clauseWords hne

end Written

section Selected

variable {α : Type}

theorem signed_of_lt {n : UInt64} (h : n.toNat < 2 ^ 63) : signed n = n.toNat := by
  rw [signed_eq, if_pos h]

theorem signed_neg_iff (n : UInt64) : signed n < 0 ↔ ¬ n.toNat < 2 ^ 63 := by
  have hlt := n.toNat_lt
  rw [signed_eq]
  split <;> omega

theorem any_map_signed (n : Option UInt64) :
    (n.map signed).any (· < 0) = true ↔ ¬ Signable n := by
  cases n with
  | none => simp [signable_none]
  | some n =>
    rw [signable_some, ← signed_neg_iff]
    exact decide_eq_true_iff

theorem isNegative_written {d : Dialect} (hd : d ≠ .sqlite) (limit offset : Option UInt64) :
    (d.written limit offset).isNegative = true ↔ ¬ (Signable limit ∧ Signable offset) := by
  have hlimit : (d.written limit offset).limit = limit.map signed := by
    cases d <;> cases limit <;> cases offset <;> first | rfl | exact absurd rfl hd
  -- Where T-SQL needs an offset that was not asked for, it is zero.
  have hoffset : (d.written limit offset).offset.any (· < 0) = (offset.map signed).any (· < 0) := by
    cases d <;> cases limit <;> cases offset <;> rfl
  rw [PageNumbers.isNegative, hlimit, hoffset, Bool.or_eq_true, any_map_signed, any_map_signed]
  exact Decidable.not_and_iff_or_not.symm

/-- A limit that is written as a negative number is beyond the end of the rows. -/
theorem take_of_signed {rows : List α} (hrows : rows.length < 2 ^ 63) (n : UInt64) :
    (if signed n < 0 then rows else rows.take (signed n).toNat) = rows.take n.toNat := by
  by_cases hn : n.toNat < 2 ^ 63
  · have hpos : ¬ signed n < 0 := fun h => (signed_neg_iff n).mp h hn
    rw [if_neg hpos, signed_of_lt hn, Int.toNat_natCast]
  · rw [if_pos ((signed_neg_iff n).mpr hn)]
    exact (List.take_of_length_le (by omega)).symm

theorem toNat_offset (offset : Option UInt64) :
    ((offset.map signed).getD 0).toNat =
      if Signable offset then offset.elim 0 UInt64.toNat else 0 := by
  cases offset with
  | none =>
    rw [if_pos signable_none]
    rfl
  | some n =>
    rw [Option.map_some, Option.getD_some]
    by_cases hn : n.toNat < 2 ^ 63
    · rw [if_pos (signable_some.mpr hn), signed_of_lt hn, Int.toNat_natCast]
      rfl
    · have hneg := (signed_neg_iff n).mpr hn
      rw [if_neg (mt signable_some.mp hn), Int.toNat_of_nonpos (Int.le_of_lt hneg)]

/-- Whether or not the clause is refused, its numbers stand for the page, but for an offset that is
written as a negative number. -/
theorem select_written (d : Dialect) (limit offset : Option UInt64) {rows : List α}
    (hrows : rows.length < 2 ^ 63) :
    (d.written limit offset).select rows =
      pageOf limit (if Signable offset then offset else none) rows := by
  have hoffset : ((d.written limit offset).offset.getD 0).toNat =
      (if Signable offset then offset else none).elim 0 UInt64.toNat := by
    have hwritten : (d.written limit offset).offset.getD 0 = (offset.map signed).getD 0 := by
      cases d <;> cases limit <;> cases offset <;> rfl
    rw [hwritten, toNat_offset]
    split <;> rfl
  have hlength (k : Nat) : (rows.drop k).length < 2 ^ 63 := by
    rw [List.length_drop]
    omega
  simp only [PageNumbers.select, pageOf, hoffset]
  generalize (if Signable offset then offset else none).elim 0 UInt64.toNat = k
  cases limit with
  | none =>
    -- SQLite writes a negative limit where there is none.
    cases d <;> cases offset <;> rfl
  | some l =>
    have hwritten : (d.written (some l) offset).limit = some (signed l) := by
      cases d <;> cases offset <;> rfl
    rw [hwritten]
    exact take_of_signed (hlength k) l

/-- A clause selects the page that it was written for where the offset can be signed, and the limit
too unless the dialect is SQLite. Otherwise SQLite skips nothing, and the other dialects refuse the
clause. -/
theorem page_selects (d : Dialect) (limit offset : Option UInt64) (rows : List α)
    (hrows : rows.length < 2 ^ 63) :
    d.select? (Token.render (d.page limit offset)) rows =
      if Signable offset ∧ (d = .sqlite ∨ Signable limit) then some (pageOf limit offset rows)
      else if d = .sqlite then some (pageOf limit none rows)
      else none := by
  rw [Dialect.select?, pageNumbers?_page, Option.bind_some, select_written d limit offset hrows]
  by_cases hd : d = .sqlite
  · subst hd
    by_cases hoffset : Signable offset <;> simp [Dialect.refuses, hoffset]
  · have hrefuses : d.refuses (d.written limit offset) = (d.written limit offset).isNegative := by
      cases d <;> first | rfl | exact absurd rfl hd
    rw [hrefuses]
    by_cases hfits : Signable limit ∧ Signable offset
    · have hneg := mt (isNegative_written hd limit offset).mp (not_not_intro hfits)
      rw [if_neg hneg, if_pos hfits.2, if_pos ⟨hfits.2, .inr hfits.1⟩]
    · have hneither : ¬ (Signable offset ∧ (d = .sqlite ∨ Signable limit)) := by
        rintro ⟨hoffset, hd' | hlimit⟩
        · exact hd hd'
        · exact hfits ⟨hlimit, hoffset⟩
      rw [if_pos ((isNegative_written hd limit offset).mpr hfits), if_neg hneither, if_neg hd]

theorem page_selects_last_row :
    let clause := Token.render (Dialect.sqlite.page (some 18446744073709551615) (some 2))
    ["a", "b", "c"].length < 2 ^ 63 ∧
      Dialect.sqlite.select? clause ["a", "b", "c"] = some ["c"] := by
  intro clause
  have hrows : ["a", "b", "c"].length < 2 ^ 63 := by decide
  exact ⟨hrows, page_selects .sqlite (some 18446744073709551615) (some 2) _ hrows⟩

/-- An offset behind all rows, which SQLite takes for none. -/
theorem page_of_negative_offset :
    let clause := Token.render (Dialect.sqlite.page none (some 9223372036854775808))
    Dialect.sqlite.select? clause ["a"] = some ["a"] ∧
      pageOf none (some 9223372036854775808) ["a"] = [] := by
  intro clause
  refine ⟨?_, rfl⟩
  rw [Dialect.select?, pageNumbers?_page]
  rfl

end Selected

end AspectQuery.Sql
