import AspectQuery.Proofs.Predicate.Spelling
/-!
# The text of each kind of condition

The text of a test, of a membership, of a subquery, and with these the text of every condition, is
read as its formula. Names of tables and columns have to be identifiers, and lists must have values.
-/

set_option autoImplicit false

namespace AspectQuery

open Sql (Column Formula Lexeme Operand Reads ReadsAll Unescaped symbols)

section Escape

def escapeLexemes : Option Char → List Lexeme
  | none => []
  | some c => [.word "ESCAPE", .literal (String.singleton c)]

theorem escape?_escapeLexemes (escape : Option Char) {rest : List Lexeme} (h : Unescaped rest) :
    Sql.escape? (escapeLexemes escape ++ rest) = (escape.map String.singleton, rest) := by
  cases escape with
  | none => exact Sql.escape?_of_unescaped h
  | some c => rfl

variable {w : Wording} {ss : List Segment} {ls : List Lexeme}

theorem Wording.Spells.escape (hss : w.Spells ss ls) (escape : Option Char) :
    w.Spells (ss ++ Test.escapeSegments escape) (ls ++ escapeLexemes escape) := by
  cases escape with
  | none => simpa [Test.escapeSegments, escapeLexemes] using hss
  | some c =>
    have hword : Sql.Spells [] (symbols " ESCAPE ") [.word "ESCAPE"] := ⟨_, rfl, rfl⟩
    refine hss.closes ?_ ?_
    · rw [Sql.symbols_append]
      exact hword.opens rfl (Sql.Spells.quoted _)
    · simp [Sql.sharpStart, symbols, Sql.Symbol.sharp]

end Escape

namespace Wording

variable {w : Wording} {x : Segment} {o : Operand}

/-- The values of a list and the parenthesis behind them. -/
def listLexemes : List Value → List Lexeme
  | [] => [.closeParen]
  | [v] => [.operand (.constant v), .closeParen]
  | v :: vs => .operand (.constant v) :: .comma :: listLexemes vs

theorem list?_listLexemes {vs : List Value} (hne : vs ≠ []) (rest : List Lexeme) :
    Sql.list? (listLexemes vs ++ rest) = some (vs.map .constant, rest) := by
  fun_induction listLexemes vs with
  | case1 => exact absurd rfl hne
  | case2 v => rfl
  | case3 v vs hvs ih =>
    have hne : vs ≠ [] := fun h => hvs h
    simp [Sql.list?, ih hne]

theorem spells_list (w : Wording) {vs : List Value} (hne : vs ≠ []) :
    w.Spells (Segment.separated ", " (vs.map fun v => [.value v]) ++ [.sql ")"])
      (listLexemes vs) := by
  fun_induction listLexemes vs with
  | case1 => exact absurd rfl hne
  | case2 v => exact (Spells.value w v).closes ⟨_, rfl, rfl⟩ rfl
  | case3 v vs hvs ih =>
    have hne : vs ≠ [] := fun h => hvs h
    obtain ⟨u, us, rfl⟩ := List.exists_cons_of_ne_nil hne
    have hcomma : Sql.Spells [] (symbols ", ") [.comma] := ⟨_, rfl, rfl⟩
    exact (Spells.value w v).joins hcomma rfl rfl (ih hne)

theorem means_among (hx : w.Spells [x] [.operand o]) {vs : List Value} (hne : vs ≠ []) :
    w.Means ([x, .sql " IN ("] ++ Segment.separated ", " (vs.map fun v => [.value v]) ++
      [.sql ")"]) (.among o (vs.map .constant)) := by
  refine ⟨[.operand o] ++ ([.word "IN", .openParen] ++ listLexemes vs), ?_, .test ?_ ?_⟩
  · exact hx.joins ⟨_, rfl, rfl⟩ rfl rfl (w.spells_list hne)
  · exact fun _ => Sql.unescaped_cons (by simp) _
  · intro rest _
    simp [Sql.item?, Sql.operand?, Sql.test?, list?_listLexemes hne]

theorem means_membership (hx : w.Spells [x] [.operand o]) {chunks : List (List Value)}
    (hchunks : chunks ≠ []) (hne : ∀ vs ∈ chunks, vs ≠ []) :
    w.Means (Segment.membership x chunks) (membership o chunks) := by
  refine means_grouped .or ?_ (by simpa using hchunks)
  rw [List.forall₂_map_left_iff, List.forall₂_map_right_iff, List.forall₂_same]
  exact fun vs hvs => means_among hx (hne vs hvs)

theorem means_test (hx : w.Spells [x] [.operand o]) {t : Test} (ht : t.Proper) :
    w.Means (t.segments x) (t.formula o) := by
  cases t with
  | relational op v =>
    have hop : Sql.Spells [] (symbols (" " ++ op.sql ++ " ")) [.relation op] := by
      cases op <;> exact ⟨_, rfl, rfl⟩
    refine ⟨_, hx.joins hop ?_ ?_ (Spells.value w v), .test ?_ ?_⟩
    · cases op <;> rfl
    · cases op <;> rfl
    · exact fun _ => Sql.unescaped_cons (by simp) _
    · exact fun _ _ => rfl
  | like pattern escape caseSensitive =>
    cases caseSensitive with
    | true =>
      have hlike : Sql.Spells [] (symbols " LIKE ") [.word "LIKE"] := ⟨_, rfl, rfl⟩
      refine ⟨_, (hx.joins hlike rfl rfl (Spells.value w _)).escape escape, .test ?_ ?_⟩
      · exact fun _ => Sql.unescaped_cons (by simp) _
      · intro rest hrest
        simp [Sql.item?, Sql.operand?, Sql.test?, Sql.pattern?, Test.formula,
          escape?_escapeLexemes escape hrest]
    | false =>
      have hupper : Sql.Spells [] (symbols "UPPER(") [.word "UPPER", .openParen] := ⟨_, rfl, rfl⟩
      have hlike : Sql.Spells [] (symbols ") LIKE UPPER(")
          [.closeParen, .word "LIKE", .word "UPPER", .openParen] := ⟨_, rfl, rfl⟩
      have hclose : Sql.Spells [] (symbols ")") [.closeParen] := ⟨_, rfl, rfl⟩
      have hpattern := (Spells.value w (.text pattern)).closes hclose rfl
      have hspells := (Spells.opens hupper rfl (hx.joins hlike rfl rfl hpattern)).escape escape
      refine ⟨_, hspells, .test ?_ ?_⟩
      · exact fun _ => Sql.unescaped_cons (by simp) _
      · intro rest hrest
        simp [Sql.item?, Sql.operand?, Sql.test?, Sql.pattern?, Test.formula,
          escape?_escapeLexemes escape hrest]
  | similarTo pattern escape =>
    have hsimilar : Sql.Spells [] (symbols " SIMILAR TO ") [.word "SIMILAR", .word "TO"] :=
      ⟨_, rfl, rfl⟩
    refine ⟨_, (hx.joins hsimilar rfl rfl (Spells.value w _)).escape escape, .test ?_ ?_⟩
    · exact fun _ => Sql.unescaped_cons (by simp) _
    · intro rest hrest
      simp [Sql.item?, Sql.operand?, Sql.test?, Sql.pattern?, Test.formula,
          escape?_escapeLexemes escape hrest]
  | between low high =>
    have hbetween : Sql.Spells [] (symbols " BETWEEN ") [.word "BETWEEN"] := ⟨_, rfl, rfl⟩
    have hand : Sql.Spells [] (symbols " AND ") [.word "AND"] := ⟨_, rfl, rfl⟩
    have hbounds := (Spells.value w low).joins hand rfl rfl (Spells.value w high)
    refine ⟨_, hx.joins hbetween rfl rfl hbounds, .test ?_ ?_⟩
    · exact fun _ => Sql.unescaped_cons (by simp) _
    · exact fun _ _ => rfl
  | among chunks => exact means_membership hx ht.1 ht.2

end Wording

namespace CollectionRows

/-- The lexemes of a subquery behind EXISTS, up to WHERE. -/
def opening : CollectionRows → List Lexeme
  | .direct table itemId _ =>
    [.openParen, .word "SELECT", .operand (.cell ⟨"VAL", itemId⟩), .word "FROM", .word table,
      .word "VAL", .word "WHERE"]
  | .shared junction values itemId valueId _ =>
    [.openParen, .word "SELECT", .operand (.cell ⟨"NM", itemId⟩), .word "FROM", .word junction,
      .word "NM", .word "INNER", .word "JOIN", .word values, .word "VAL", .word "ON",
      .operand (.cell ⟨"NM", valueId⟩), .relation .eq, .operand (.cell ⟨"VAL", valueId⟩),
      .word "WHERE"]

theorem subquery?_opening (rows : CollectionRows) (rest : List Lexeme) :
    Sql.subquery? (rows.opening ++ rest) = some (rows.subquery, rest) := by
  cases rows <;> simp [opening, Sql.subquery?, Sql.joins?, subquery]

theorem existence_direct (table itemId value : String) :
    (direct table itemId value).existence = "EXISTS(SELECT VAL." ++ itemId ++ " FROM " ++ table ++
      " VAL WHERE VAL." ++ itemId ++ " = " := rfl

theorem existence_shared (junction values itemId valueId value : String) :
    (shared junction values itemId valueId value).existence = "EXISTS(SELECT NM." ++ itemId ++
      " FROM " ++ junction ++ " NM INNER JOIN " ++ values ++ " VAL ON NM." ++ valueId ++
      " = VAL." ++ valueId ++ " WHERE NM." ++ itemId ++ " = " := rfl

theorem spells_existence {rows : CollectionRows} (h : rows.Plain) :
    Sql.Spells [] (symbols rows.existence)
      (.word "EXISTS" :: rows.opening ++ [.operand (.cell rows.itemCell), .relation .eq]) := by
  have hval : Sql.isIdentifier "VAL" := rfl
  have hnm : Sql.isIdentifier "NM" := rfl
  have hopen : Sql.Spells [] (symbols "EXISTS(SELECT ")
      [.word "EXISTS", .openParen, .word "SELECT"] := ⟨_, rfl, rfl⟩
  have hfrom : Sql.Spells [] (symbols " FROM ") [.word "FROM"] := ⟨_, rfl, rfl⟩
  have heq : Sql.Spells [] (symbols " = ") [.relation .eq] := ⟨_, rfl, rfl⟩
  cases rows with
  | direct table itemId value =>
    obtain ⟨htable, hitemId, -⟩ := h
    have hcell : Sql.Spells [] _ [.operand (.cell ⟨"VAL", itemId⟩)] := .cell hval hitemId
    have hwhere : Sql.Spells [] (symbols " VAL WHERE ") [.word "VAL", .word "WHERE"] :=
      ⟨_, rfl, rfl⟩
    have htie := hcell.closes heq rfl
    have htables := (Sql.Spells.name htable).joins hwhere rfl rfl htie
    have hall := hopen.opens rfl (hcell.joins hfrom rfl rfl htables)
    have hfirst : symbols "EXISTS(SELECT VAL." =
      symbols "EXISTS(SELECT " ++ (symbols "VAL" ++ symbols ".") := rfl
    have hlast : symbols " VAL WHERE VAL." =
      symbols " VAL WHERE " ++ (symbols "VAL" ++ symbols ".") := rfl
    simp only [Column.text, Sql.symbols_append, List.append_assoc] at hall
    simp only [existence_direct, Sql.symbols_append, List.append_assoc, hfirst, hlast]
    exact hall
  | shared junction values itemId valueId value =>
    obtain ⟨hjunction, hvalues, hitemId, hvalueId, -⟩ := h
    have hcell : Sql.Spells [] _ [.operand (.cell ⟨"NM", itemId⟩)] := .cell hnm hitemId
    have hleft : Sql.Spells [] _ [.operand (.cell ⟨"NM", valueId⟩)] := .cell hnm hvalueId
    have hright : Sql.Spells [] _ [.operand (.cell ⟨"VAL", valueId⟩)] := .cell hval hvalueId
    have hjoin : Sql.Spells [] (symbols " NM INNER JOIN ")
        [.word "NM", .word "INNER", .word "JOIN"] := ⟨_, rfl, rfl⟩
    have hon : Sql.Spells [] (symbols " VAL ON ") [.word "VAL", .word "ON"] := ⟨_, rfl, rfl⟩
    have hwhere : Sql.Spells [] (symbols " WHERE ") [.word "WHERE"] := ⟨_, rfl, rfl⟩
    have htie := hright.joins hwhere rfl rfl (hcell.closes heq rfl)
    have hcondition := hleft.joins heq rfl rfl htie
    have htables := (Sql.Spells.name hjunction).joins hjoin rfl rfl
      ((Sql.Spells.name hvalues).joins hon rfl rfl hcondition)
    have hall := hopen.opens rfl (hcell.joins hfrom rfl rfl htables)
    have hfirst : symbols "EXISTS(SELECT NM." =
      symbols "EXISTS(SELECT " ++ (symbols "NM" ++ symbols ".") := rfl
    have hsecond : symbols " VAL ON NM." =
      symbols " VAL ON " ++ (symbols "NM" ++ symbols ".") := rfl
    have hthird : symbols " = VAL." = symbols " = " ++ (symbols "VAL" ++ symbols ".") := rfl
    have hlast : symbols " WHERE NM." = symbols " WHERE " ++ (symbols "NM" ++ symbols ".") := rfl
    simp only [Column.text, Sql.symbols_append, List.append_assoc] at hall
    simp only [existence_shared, Sql.symbols_append, List.append_assoc, hfirst, hsecond, hthird,
      hlast]
    exact hall

theorem sharpEnd_existence (rows : CollectionRows) : Sql.sharpEnd rows.existence := by
  have hlast : Sql.sharpEnd " = " := rfl
  cases rows with
  | direct table itemId value => exact Sql.sharpEnd_append _ hlast
  | shared junction values itemId valueId value => exact Sql.sharpEnd_append _ hlast

theorem spells_valueColumn {rows : CollectionRows} (h : rows.Plain) :
    Sql.Spells [] (symbols rows.valueColumn) [.operand (.cell rows.valueCell)] := by
  have hval : Sql.isIdentifier "VAL" := rfl
  have hqualified : ∀ name : String,
      symbols ("VAL." ++ name) = symbols (Column.text ⟨"VAL", name⟩) := by
    intro name
    simp only [Column.text, Sql.symbols_append]
    rfl
  cases rows with
  | direct table itemId value =>
    have hcell : Sql.Spells [] _ [.operand (.cell ⟨"VAL", value⟩)] := .cell hval h.2.2
    exact hqualified value ▸ hcell
  | shared junction values itemId valueId value =>
    have hcell : Sql.Spells [] _ [.operand (.cell ⟨"VAL", value⟩)] := .cell hval h.2.2.2.2
    exact hqualified value ▸ hcell

theorem reads_tie (rows : CollectionRows) (owner : Operand) :
    Reads [.operand (.cell rows.itemCell), .relation .eq, .operand owner] (rows.tie owner) :=
  .test (fun _ => Sql.unescaped_cons (by simp) _) fun _ _ => rfl

end CollectionRows

namespace Wording

variable {w : Wording} {ss : List Segment} {f : Formula}

/-- A subquery with a further test behind the tie to the item. -/
theorem Means.existence {rows : CollectionRows} (hrows : rows.Plain) (h : w.Means ss f) :
    w.Means ([.sql rows.existence, .anchor, .sql " AND "] ++ ss ++ [.sql ")"])
      (.existence rows.subquery (.and (rows.tie w.owner) f)) := by
  obtain ⟨ls, hss, hls⟩ := h
  have hand : Sql.Spells [] (symbols " AND ") [.word "AND"] := ⟨_, rfl, rfl⟩
  have hclose : Sql.Spells [] (symbols ")") [.closeParen] := ⟨_, rfl, rfl⟩
  have hbody := (Spells.anchor w).joins hand rfl rfl hss
  have hspells := Spells.closes (Spells.opens (rows.spells_existence hrows)
    rows.sharpEnd_existence hbody) hclose rfl
  have hreads : Reads _ (.existence rows.subquery (.and (rows.tie w.owner) f)) :=
    ((rows.reads_tie w.owner).all.and hls).existence rows.subquery?_opening
  exact ⟨_, hspells, by simpa using hreads⟩

theorem means_existence_tie (w : Wording) {rows : CollectionRows} (hrows : rows.Plain) :
    w.Means [.sql ("NOT " ++ rows.existence), .anchor, .sql " )"]
      (.not (.existence rows.subquery (rows.tie w.owner))) := by
  have hnot : Sql.Spells [] (symbols "NOT ") [.word "NOT"] := ⟨_, rfl, rfl⟩
  have hclose : Sql.Spells [] (symbols " )") [.closeParen] := ⟨_, rfl, rfl⟩
  have hopen := hnot.opens rfl (rows.spells_existence hrows)
  have hend := Sql.sharpEnd_append "NOT " rows.sharpEnd_existence
  rw [← Sql.symbols_append] at hopen
  have hspells := Spells.opens hopen hend ((Spells.anchor w).closes hclose rfl)
  have hreads : Reads _ (.not (.existence rows.subquery (rows.tie w.owner))) :=
    ((rows.reads_tie w.owner).all.existence rows.subquery?_opening).not
  exact ⟨_, hspells, by simpa using hreads⟩

end Wording

namespace Condition

variable {w : Wording}

mutual

theorem means (w : Wording) (c : Condition) (hc : c.Proper) :
    w.Means c.segments (c.formula w.column w.owner) := by
  cases c with
  | never =>
    have hnever : Sql.Spells [] (symbols "1 = 2") [.operand (.constant (.integer 1)),
      .relation .eq, .operand (.constant (.integer 2))] := ⟨_, rfl, rfl⟩
    exact ⟨_, .sql w hnever, .test (fun _ => Sql.unescaped_cons (by simp) _) fun _ _ => rfl⟩
  | not c => exact (means w c hc).all.not
  | junction op operands =>
    exact Wording.means_junction op (meansAll w operands hc.2) (formulas_ne_nil hc.1)
  | isEmpty s =>
    cases s with
    | column m =>
      have hnull : Sql.Spells [] (symbols " IS NULL") [.word "IS", .word "NULL"] := ⟨_, rfl, rfl⟩
      refine ⟨_, (Wording.Spells.column w m).closes hnull rfl, .test ?_ ?_⟩
      · exact fun _ => Sql.unescaped_cons (by simp) _
      · exact fun _ _ => rfl
    | collection path rows => exact w.means_existence_tie hc
  | test s t =>
    cases s with
    | column m => exact Wording.means_test (.column w m) hc.2
    | collection path rows =>
      exact .existence hc.1 (Wording.means_test (.sql w (rows.spells_valueColumn hc.1)) hc.2)
  | itemIds chunks =>
    refine Wording.means_membership (.anchor w) ?_ ?_
    · simpa using hc.1
    · simpa using hc.2

theorem meansAll (w : Wording) (cs : List Condition) (hcs : ProperAll cs) :
    List.Forall₂ w.Means (segmentsOfAll cs) (formulas w.column w.owner cs) := by
  cases cs with
  | nil => exact .nil
  | cons c cs => exact .cons (means w c hcs.1) (meansAll w cs hcs.2)

end

end Condition

end AspectQuery
