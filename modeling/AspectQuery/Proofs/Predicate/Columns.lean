import AspectQuery.Proofs.Predicate.Meaning
import AspectQuery.Proofs.Sql.Scoping
/-!
# The columns that conditions name

A condition names the columns of its mentions, the column of item ids, and behind EXISTS columns of
the tables of the subquery. So its formula is in scope where these columns are, and its text names
no other columns.
-/

set_option autoImplicit false

namespace AspectQuery

open Sql (Column Formula Lexeme Operand subqueryAliases symbols)

section Formulas

variable {tables : List String}

theorem scoped_foldl (make : Formula → Formula → Formula)
    (hmake : ∀ f g : Formula, f.Scoped tables → g.Scoped tables → (make f g).Scoped tables)
    {f : Formula} (hf : f.Scoped tables) {fs : List Formula} (hfs : ∀ g ∈ fs, g.Scoped tables) :
    (fs.foldl make f).Scoped tables := by
  induction fs generalizing f with
  | nil => exact hf
  | cons g fs ih =>
    obtain ⟨hg, hfs⟩ := List.forall_mem_cons.mp hfs
    exact ih (hmake f g hf hg) hfs

theorem Connective.scoped_formula (op : Connective) {fs : List Formula}
    (h : ∀ f ∈ fs, f.Scoped tables) : (op.formula fs).Scoped tables := by
  cases fs with
  | nil => exact ⟨trivial, trivial⟩
  | cons f fs =>
    obtain ⟨hf, hfs⟩ := List.forall_mem_cons.mp h
    cases op with
    | and => exact scoped_foldl .and (fun _ _ hf hg => ⟨hf, hg⟩) hf hfs
    | or => exact scoped_foldl .or (fun _ _ hf hg => ⟨hf, hg⟩) hf hfs

theorem scoped_membership {x : Operand} (hx : x.Scoped tables) (chunks : List (List Value)) :
    (membership x chunks).Scoped tables := by
  refine Connective.or.scoped_formula fun f hf => ?_
  obtain ⟨vs, -, rfl⟩ := List.mem_map.mp hf
  refine ⟨hx, fun y hy => ?_⟩
  obtain ⟨v, -, rfl⟩ := List.mem_map.mp hy
  trivial

theorem Test.scoped_formula {x : Operand} (hx : x.Scoped tables) (t : Test) :
    (t.formula x).Scoped tables := by
  cases t with
  | relational op v => exact ⟨hx, trivial⟩
  | like pattern escape caseSensitive => cases caseSensitive <;> exact ⟨hx, trivial⟩
  | similarTo pattern escape => exact ⟨hx, trivial⟩
  | between low high => exact ⟨hx, trivial, trivial⟩
  | among chunks => exact scoped_membership hx chunks

namespace CollectionRows

theorem joinsScoped_subquery (rows : CollectionRows) :
    Sql.JoinsScoped [rows.subquery.aliasName] rows.subquery.joins := by
  cases rows with
  | direct table itemId value => trivial
  | shared junction values itemId valueId value =>
    exact ⟨List.mem_cons_self, List.mem_cons_of_mem _ List.mem_cons_self, trivial⟩

theorem mem_tables_itemCell (rows : CollectionRows) :
    rows.itemCell.qualifier ∈ rows.subquery.tables := by
  cases rows <;> exact List.mem_cons_self

theorem mem_tables_valueCell (rows : CollectionRows) :
    rows.valueCell.qualifier ∈ rows.subquery.tables := by
  cases rows with
  | direct table itemId value => exact List.mem_cons_self
  | shared junction values itemId valueId value =>
    exact List.mem_cons_of_mem _ List.mem_cons_self

theorem scoped_tie (rows : CollectionRows) {owner : Operand} (h : owner.Scoped tables) :
    (rows.tie owner).Scoped (rows.subquery.tables ++ tables) :=
  ⟨List.mem_append_left _ rows.mem_tables_itemCell, h.mono (List.subset_append_right _ _)⟩

end CollectionRows

namespace Condition

variable {column : Mention → Operand} {owner : Operand}

mutual

theorem scoped_formula (c : Condition) (howner : owner.Scoped tables)
    (hcolumn : ∀ m ∈ c.mentions, (column m).Scoped tables) :
    (c.formula column owner).Scoped tables := by
  cases c with
  | never => exact ⟨trivial, trivial⟩
  | not c => exact scoped_formula c howner hcolumn
  | junction op operands => exact op.scoped_formula (scoped_formulas operands howner hcolumn)
  | isEmpty s =>
    cases s with
    | column m => exact hcolumn m (List.mem_singleton_self m)
    | collection path rows => exact ⟨rows.joinsScoped_subquery, rows.scoped_tie howner⟩
  | test s t =>
    cases s with
    | column m => exact t.scoped_formula (hcolumn m (List.mem_singleton_self m))
    | collection path rows =>
      have hvalue : (Operand.cell rows.valueCell).Scoped (rows.subquery.tables ++ tables) :=
        List.mem_append_left _ rows.mem_tables_valueCell
      exact ⟨rows.joinsScoped_subquery, rows.scoped_tie howner, t.scoped_formula hvalue⟩
  | itemIds chunks => exact scoped_membership howner _

theorem scoped_formulas (cs : List Condition) (howner : owner.Scoped tables)
    (hcolumn : ∀ m ∈ mentionsOfAll cs, (column m).Scoped tables) :
    ∀ f ∈ formulas column owner cs, f.Scoped tables := by
  cases cs with
  | nil => simp [formulas]
  | cons c cs =>
    obtain ⟨hc, hcs⟩ := List.forall_mem_append.mp hcolumn
    exact List.forall_mem_cons.mpr
      ⟨scoped_formula c howner hc, scoped_formulas cs howner hcs⟩

end

end Condition

end Formulas

/-- The columns among the lexemes are of a kind. -/
def Within (P : Column → Prop) (ls : List Lexeme) : Prop := ∀ c, .operand (.cell c) ∈ ls → P c

theorem Within.append {P : Column → Prop} {ls ks : List Lexeme} (hls : Within P ls)
    (hks : Within P ks) : Within P (ls ++ ks) := fun c hc =>
  (List.mem_append.mp hc).elim (hls c) (hks c)

/-- The values of placeholders are not columns. -/
theorem Within.of_supply {P : Column → Prop} {vs : List Value} {raw ls : List Lexeme}
    (h : Sql.supply vs raw = some ls) (hls : Within P ls) : Within P raw := by
  fun_induction Sql.supply vs raw generalizing ls with
  | case1 => simp [Within]
  | case2 => simp at h
  | case3 v vs raw ih =>
    obtain ⟨ks, hks, rfl⟩ := Option.map_eq_some_iff.mp h
    have hrest := ih hks fun c hc => hls c (List.mem_cons_of_mem _ hc)
    exact fun c hc => hrest c (by simpa using hc)
  | case4 => simp at h
  | case5 vs l raw _ _ ih =>
    obtain ⟨ks, hks, rfl⟩ := Option.map_eq_some_iff.mp h
    have hrest := ih hks fun c hc => hls c (List.mem_cons_of_mem _ hc)
    intro c hc
    rcases List.mem_cons.mp hc with rfl | hc
    · exact hls c List.mem_cons_self
    · exact hrest c hc

namespace Wording

/-- The text names only columns of a kind. -/
def Names (w : Wording) (P : Column → Prop) (ss : List Segment) : Prop :=
  ∃ ls, w.Spells ss ls ∧ Within P ls

section

variable {w : Wording} {P : Column → Prop} {ss ts : List Segment} {tl : List Lexeme} {text : String}

theorem Names.value (w : Wording) (P : Column → Prop) (v : Value) : w.Names P [.value v] :=
  ⟨_, .value w v, by simp [Within]⟩

theorem Names.column {m : Mention} (h : ∀ c, w.column m = .cell c → P c) :
    w.Names P [.column m] :=
  ⟨_, .column w m, fun c hc => h c (by simpa [eq_comm] using hc)⟩

theorem Names.anchor (h : ∀ c, w.owner = .cell c → P c) : w.Names P [.anchor] :=
  ⟨_, .anchor w, fun c hc => h c (by simpa [eq_comm] using hc)⟩

theorem Names.opens (htext : Sql.Spells [] (symbols text) tl) (hend : Sql.sharpEnd text)
    (htl : Within P tl) (hss : w.Names P ss) : w.Names P (.sql text :: ss) := by
  obtain ⟨ls, hls, hwithin⟩ := hss
  exact ⟨_, Spells.opens htext hend hls, htl.append hwithin⟩

theorem Names.closes (hss : w.Names P ss) (htext : Sql.Spells [] (symbols text) tl)
    (hstart : Sql.sharpStart text) (htl : Within P tl) : w.Names P (ss ++ [.sql text]) := by
  obtain ⟨ls, hls, hwithin⟩ := hss
  exact ⟨_, Spells.closes hls htext hstart, hwithin.append htl⟩

theorem Names.joins (hss : w.Names P ss) (htext : Sql.Spells [] (symbols text) tl)
    (hstart : Sql.sharpStart text) (hend : Sql.sharpEnd text) (htl : Within P tl)
    (hts : w.Names P ts) : w.Names P (ss ++ .sql text :: ts) := by
  obtain ⟨ls, hls, hwithin⟩ := hss
  obtain ⟨ks, hks, hwithin'⟩ := hts
  exact ⟨_, hls.joins htext hstart hend hks, hwithin.append (htl.append hwithin')⟩

theorem Names.close (hss : w.Names P ss) : w.Names P (ss ++ [.sql ")"]) :=
  hss.closes ⟨[.closeParen], rfl, rfl⟩ rfl (by simp [Within])

theorem Names.parens (hss : w.Names P ss) : w.Names P (.sql "(" :: ss ++ [.sql ")"]) :=
  (Names.opens ⟨[.openParen], rfl, rfl⟩ rfl (by simp [Within]) hss).close

theorem Names.escape (hss : w.Names P ss) (escape : Option Char) :
    w.Names P (ss ++ Test.escapeSegments escape) := by
  obtain ⟨ls, hls, hwithin⟩ := hss
  refine ⟨_, hls.escape escape, hwithin.append ?_⟩
  cases escape <;> simp [escapeLexemes, Within]

theorem names_separated {separator : String} (htext : Sql.Spells [] (symbols separator) tl)
    (hstart : Sql.sharpStart separator) (hend : Sql.sharpEnd separator) (htl : Within P tl)
    {sss : List (List Segment)} (hne : sss ≠ []) (h : ∀ ss ∈ sss, w.Names P ss) :
    w.Names P (Segment.separated separator sss) := by
  induction sss with
  | nil => exact absurd rfl hne
  | cons ss rest ih =>
    obtain ⟨hss, hrest⟩ := List.forall_mem_cons.mp h
    cases rest with
    | nil => exact hss
    | cons ts rest => exact hss.joins htext hstart hend htl (ih (by simp) hrest)

theorem names_connected (op : Connective) {sss : List (List Segment)} (hne : sss ≠ [])
    (h : ∀ ss ∈ sss, w.Names P ss) : w.Names P (Segment.separated op.sql sss) := by
  cases op with
  | and => exact names_separated ⟨[.word "AND"], rfl, rfl⟩ rfl rfl (by simp [Within]) hne h
  | or => exact names_separated ⟨[.word "OR"], rfl, rfl⟩ rfl rfl (by simp [Within]) hne h

variable {x : Segment}

theorem names_membership (hx : w.Names P [x]) {chunks : List (List Value)} (hchunks : chunks ≠ [])
    (hne : ∀ vs ∈ chunks, vs ≠ []) : w.Names P (Segment.membership x chunks) := by
  have hchunk : ∀ vs ∈ chunks, w.Names P ([x, .sql " IN ("] ++
      Segment.separated ", " (vs.map fun v => [.value v]) ++ [.sql ")"]) := by
    intro vs hvs
    have hlist : w.Names P (Segment.separated ", " (vs.map fun v => [.value v])) := by
      refine names_separated ⟨[.comma], rfl, rfl⟩ rfl rfl (by simp [Within])
        (by simpa using hne vs hvs) fun ss hss => ?_
      obtain ⟨v, -, rfl⟩ := List.mem_map.mp hss
      exact .value w P v
    exact (hx.joins ⟨[.word "IN", .openParen], rfl, rfl⟩ rfl rfl (by simp [Within]) hlist).close
  have hall : ∀ ss ∈ chunks.map (fun vs => [x, .sql " IN ("] ++
      Segment.separated ", " (vs.map fun v => [.value v]) ++ [.sql ")"]), w.Names P ss := by
    intro ss hss
    obtain ⟨vs, hvs, rfl⟩ := List.mem_map.mp hss
    exact hchunk vs hvs
  unfold Segment.membership Segment.grouped
  split
  · rename_i ss heq
    exact hall ss (heq ▸ List.mem_singleton_self ss)
  · exact (names_connected .or (by simpa using hchunks) hall).parens

theorem names_test (hx : w.Names P [x]) {t : Test} (ht : t.Proper) : w.Names P (t.segments x) := by
  cases t with
  | relational op v =>
    have hop : Sql.Spells [] (symbols (" " ++ op.sql ++ " ")) [.relation op] := by
      cases op <;> exact ⟨_, rfl, rfl⟩
    refine hx.joins hop ?_ ?_ (by simp [Within]) (.value w P v)
    · cases op <;> rfl
    · cases op <;> rfl
  | like pattern escape caseSensitive =>
    cases caseSensitive with
    | true =>
      exact (hx.joins ⟨[.word "LIKE"], rfl, rfl⟩ rfl rfl (by simp [Within])
        (.value w P (.text pattern))).escape escape
    | false =>
      have hpattern : w.Names P [.value (.text pattern), .sql ")"] :=
        (Names.value w P (.text pattern)).close
      have hlike : Sql.Spells [] (symbols ") LIKE UPPER(")
          [.closeParen, .word "LIKE", .word "UPPER", .openParen] := ⟨_, rfl, rfl⟩
      have hbody := hx.joins hlike rfl rfl (by simp [Within]) hpattern
      exact (Names.opens ⟨[.word "UPPER", .openParen], rfl, rfl⟩ rfl (by simp [Within])
        hbody).escape escape
  | similarTo pattern escape =>
    exact (hx.joins ⟨[.word "SIMILAR", .word "TO"], rfl, rfl⟩ rfl rfl (by simp [Within])
      (.value w P (.text pattern))).escape escape
  | between low high =>
    have hand : Sql.Spells [] (symbols " AND ") [.word "AND"] := ⟨_, rfl, rfl⟩
    have hbounds := (Names.value w P low).joins hand rfl rfl (by simp [Within]) (.value w P high)
    exact hx.joins ⟨[.word "BETWEEN"], rfl, rfl⟩ rfl rfl (by simp [Within]) hbounds
  | among chunks => exact names_membership hx ht.1 ht.2

end

end Wording

section Subqueries

variable {w : Wording} {P : Column → Prop}

theorem CollectionRows.within_existence (rows : CollectionRows)
    (hP : ∀ a ∈ subqueryAliases, ∀ name, P ⟨a, name⟩) :
    Within P
      (.word "EXISTS" :: rows.opening ++ [.operand (.cell rows.itemCell), .relation .eq]) := by
  have hval : ∀ name, P ⟨"VAL", name⟩ := hP "VAL" List.mem_cons_self
  have hnm : ∀ name, P ⟨"NM", name⟩ := hP "NM" (List.mem_cons_of_mem _ List.mem_cons_self)
  intro c hc
  cases rows with
  | direct table itemId value =>
    obtain rfl : c = ⟨"VAL", itemId⟩ := by
      simpa [CollectionRows.opening, CollectionRows.itemCell] using hc
    exact hval itemId
  | shared junction values itemId valueId value =>
    simp only [CollectionRows.opening, CollectionRows.itemCell, List.cons_append, List.nil_append,
      List.mem_cons, reduceCtorEq, Lexeme.operand.injEq, Operand.cell.injEq, false_or,
      List.not_mem_nil, or_false] at hc
    rcases hc with rfl | rfl | rfl | rfl
    · exact hnm itemId
    · exact hnm valueId
    · exact hval valueId
    · exact hnm itemId

namespace Condition

mutual

/-- The text of a condition names the columns of its mentions, the one of item ids, and columns of
subqueries. -/
theorem names_segments (hP : ∀ a ∈ subqueryAliases, ∀ name, P ⟨a, name⟩)
    (howner : w.Names P [.anchor]) (c : Condition) (hc : c.Proper)
    (hcolumn : ∀ m ∈ c.mentions, w.Names P [.column m]) : w.Names P c.segments := by
  cases c with
  | never =>
    exact ⟨_, .sql w ⟨[.operand (.constant (.integer 1)), .relation .eq,
      .operand (.constant (.integer 2))], rfl, rfl⟩, by simp [Within]⟩
  | not c =>
    exact (Wording.Names.opens ⟨[.word "NOT", .openParen], rfl, rfl⟩ rfl (by simp [Within])
      (names_segments hP howner c hc hcolumn)).close
  | junction op operands =>
    have hne : segmentsOfAll operands ≠ [] := by
      obtain ⟨c, cs, rfl⟩ := List.exists_cons_of_ne_nil hc.1
      simp [segmentsOfAll]
    have hall := names_segmentsOfAll hP howner operands hc.2 hcolumn
    exact (Wording.names_connected op hne hall).parens
  | isEmpty s =>
    cases s with
    | column m =>
      exact (hcolumn m (List.mem_singleton_self m)).closes
        ⟨[.word "IS", .word "NULL"], rfl, rfl⟩ rfl (by simp [Within])
    | collection path rows =>
      have hnot : Sql.Spells [] (symbols "NOT ") [.word "NOT"] := ⟨_, rfl, rfl⟩
      have hopen := hnot.opens rfl (rows.spells_existence hc)
      rw [← Sql.symbols_append] at hopen
      have hwithin : Within P [.word "NOT"] := by simp [Within]
      exact Wording.Names.opens hopen (Sql.sharpEnd_append "NOT " rows.sharpEnd_existence)
        (hwithin.append (rows.within_existence hP))
        (howner.closes ⟨[.closeParen], rfl, rfl⟩ rfl (by simp [Within]))
  | test s t =>
    cases s with
    | column m => exact Wording.names_test (hcolumn m (List.mem_singleton_self m)) hc.2
    | collection path rows =>
      have hvalue : w.Names P [.sql rows.valueColumn] := by
        refine ⟨_, .sql w (rows.spells_valueColumn hc.1), fun c h => ?_⟩
        obtain rfl : c = rows.valueCell := by simpa using h
        cases rows <;> exact hP "VAL" List.mem_cons_self _
      have hand : Sql.Spells [] (symbols " AND ") [.word "AND"] := ⟨_, rfl, rfl⟩
      have hbody := howner.joins hand rfl rfl (by simp [Within]) (Wording.names_test hvalue hc.2)
      exact (Wording.Names.opens (rows.spells_existence hc.1) rows.sharpEnd_existence
        (rows.within_existence hP) hbody).close
  | itemIds chunks =>
    refine Wording.names_membership howner ?_ ?_
    · simpa using hc.1
    · simpa using hc.2

theorem names_segmentsOfAll (hP : ∀ a ∈ subqueryAliases, ∀ name, P ⟨a, name⟩)
    (howner : w.Names P [.anchor]) (cs : List Condition) (hcs : ProperAll cs)
    (hcolumn : ∀ m ∈ mentionsOfAll cs, w.Names P [.column m]) :
    ∀ ss ∈ segmentsOfAll cs, w.Names P ss := by
  cases cs with
  | nil => simp [segmentsOfAll]
  | cons c cs =>
    obtain ⟨hc, hrest⟩ := List.forall_mem_append.mp hcolumn
    exact List.forall_mem_cons.mpr
      ⟨names_segments hP howner c hcs.1 hc, names_segmentsOfAll hP howner cs hcs.2 hrest⟩

end

end Condition

end Subqueries

end AspectQuery
