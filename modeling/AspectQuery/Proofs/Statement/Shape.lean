import AspectQuery.Proofs.Predicate.Shape
import AspectQuery.Proofs.Sql.Page
import AspectQuery.Proofs.Statement.Binding
/-!
# The text of statements

In the text of a statement the condition stands somewhere, and a question mark for each of its
values. Whatever is selected and however it is ordered, the text around the condition has no
question mark.
-/

set_option autoImplicit false

namespace AspectQuery

open Sql (Closed Column Contents Level Operators Record Shaped Surrounds isIdentifier outside?)

/-- A text with closed literals and without question marks outside of them. -/
def Bare (text : String) : Prop := ∃ os, outside? false text.toList = some os ∧ '?' ∉ os

theorem bare_of_shaped {text : String} {a b : Nat} (h : Shaped text a b 0) : Bare text := by
  obtain ⟨os, hos, -, -, hcount⟩ := h
  exact ⟨os, hos, List.count_eq_zero.mp hcount⟩

theorem Bare.append {s t : String} (hs : Bare s) (ht : Bare t) : Bare (s ++ t) := by
  obtain ⟨os, hos, hnot⟩ := hs
  obtain ⟨ps, hps, hnot'⟩ := ht
  refine ⟨os ++ ps, ?_, by simp [hnot, hnot']⟩
  rw [String.toList_append, Sql.outside?_append hos, hps]
  rfl

/-- Each value of a predicate has its question mark where it stands in the text, and is the
parameter of the same place. -/
structure LinesUp (predicate : Predicate) (b : Bound) (page : String) : Prop where
  closed : ∃ os, Closed b.sql page b.params.length os
  params : b.params = predicate.params
  places : ∃ write before behind,
    b.sql = before ++ String.join (predicate.segments.map write) ++ behind ∧
      (∀ v, write (.value v) = "?") ∧ Bare before ∧ Bare behind ∧
        ∀ s ∈ predicate.segments, s.value? = none → Bare (write s)

theorem Predicate.Compiled.neat {schema : Schema} {ms : Mentions} {predicate : Predicate}
    (hp : predicate.Compiled schema ms) {write : Segment → String} (hwrite : Writing write) :
    Neat write 0 0 predicate.segments := by
  obtain ⟨_ | c⟩ := predicate
  · exact .nil write
  · exact c.neat hwrite (hp c rfl).proper

theorem bare_page (d : Sql.Dialect) (limit offset : Option UInt64) :
    Bare (Sql.Token.render (Sql.spaced (d.page limit offset))) := by
  obtain ⟨hchars, -⟩ := Sql.pageText_page d limit offset
  have hnot : ∀ c, Sql.isPageChar c = false →
      c ∉ (Sql.Token.render (Sql.spaced (d.page limit offset))).toList := by
    intro c hc hmem
    rw [hchars c hmem] at hc
    exact absurd hc (by decide)
  exact ⟨_, Sql.outside?_of_notMem (hnot _ (by decide)), hnot '?' (by decide)⟩

theorem plain_outputColumn {c : Column} (hc : c.Plain) {aliasName : String}
    (ha : IsAlias aliasName) : (JoinPlan.outputColumn c aliasName).Plain := by
  refine ⟨hc, fun a h => ?_⟩
  obtain rfl := Option.some.inj h
  exact ha.isIdentifier

theorem plain_countBy (s : Sql.Select) {derived counted count : String} {names : List String}
    (hderived : IsAlias derived) (hcounted : IsAlias counted) (hcount : IsAlias count)
    (hnames : ∀ n ∈ names, IsAlias n) : (countBy s derived counted count names).Plain := by
  have hcolumn : ∀ n ∈ names, Column.Plain ⟨derived, n⟩ := fun n hn =>
    ⟨hderived.isIdentifier, (hnames n hn).isIdentifier⟩
  refine ⟨fun o ho => ?_, by simp [countBy], fun c hc => ?_, fun k hk => ?_⟩
  · rcases List.mem_cons.mp ho with rfl | ho
    · refine ⟨⟨hderived.isIdentifier, hcounted.isIdentifier⟩, fun a h => ?_⟩
      obtain rfl := Option.some.inj h
      exact hcount.isIdentifier
    · obtain ⟨c, hc, rfl⟩ := List.mem_map.mp ho
      obtain ⟨n, hn, rfl⟩ := List.mem_map.mp hc
      exact plain_outputColumn (hcolumn n hn) (hnames n hn)
  · obtain ⟨n, hn, rfl⟩ := List.mem_map.mp hc
    exact hcolumn n hn
  · obtain ⟨c, hc, rfl⟩ := List.mem_map.mp hk
    obtain ⟨n, hn, rfl⟩ := List.mem_map.mp hc
    exact hcolumn n hn

theorem linesUp_of_surrounds {predicate : Predicate} {write : Segment → String}
    (hwrite : Writing write) (hneat : Neat write 0 0 predicate.segments) {s : Sql.Select}
    {d : Sql.Dialect}
    (h : Surrounds (s.unpaged.render d) (String.join (predicate.segments.map write))) :
    LinesUp predicate ⟨s.render d, predicate.params⟩
      (Sql.Token.render (Sql.spaced (d.page s.limit s.offset))) := by
  have hclosed := Sql.closed_of_level (h.level hneat.shaped) d s.limit s.offset
  rw [← Sql.Select.render_eq_page] at hclosed
  obtain ⟨k, before, behind, htext, hbefore, hbehind⟩ := h
  refine ⟨hclosed, rfl, write, before,
    behind ++ Sql.Token.render (Sql.spaced (d.page s.limit s.offset)), ?_, hwrite.value,
    bare_of_shaped hbefore, (bare_of_shaped hbehind).append (bare_page d s.limit s.offset), ?_⟩
  · rw [Sql.Select.render_eq_page, htext, String.append_assoc]
  · intro s hs hnone
    obtain ⟨a, b, hshaped⟩ := hneat.pieces s hs hnone
    exact bare_of_shaped hshaped

namespace JoinPlan

section

variable {ops : Operators} {db : Contents} {schema : Schema} {ms : Mentions} {base : String}
  {anchor : ColumnRef} {kept : Record → Bool} {p : JoinPlan} {predicate : Predicate}

theorem Fits.plain_qualify (h : p.Fits ops db schema ms base anchor kept) {c : ColumnRef}
    {column : Column} (hqualify : p.tables.qualify c = .ok column) (hc : isIdentifier c.column) :
    column.Plain := by
  simp only [Tables.qualify, bind_eq_ok, pure_eq_ok] at hqualify
  obtain ⟨i, hi, rfl⟩ := hqualify
  have hmem := (Tables.mem_of_table hi).1
  exact ⟨(h.sound.aliases.isAlias _ (h.sound.used i hmem)).isIdentifier, hc⟩

theorem Fits.plain_anchor (h : p.Fits ops db schema ms base anchor kept) (hs : schema.Proper)
    {column : Column} (hqualify : p.tables.qualify anchor = .ok column) : column.Plain :=
  h.plain_qualify hqualify (h.anchor ▸ hs.naming.itemIdColumn)

theorem Fits.plain_joins (h : p.Fits ops db schema ms base anchor kept) {js : List Sql.Join}
    (hjs : p.tables.joins = .ok js) : ∀ j ∈ js, j.Plain := by
  intro j hj
  obtain ⟨e, he, hjoin⟩ := mem_of_mapM hjs hj
  simp only [Tables.join, bind_eq_ok, pure_eq_ok] at hjoin
  obtain ⟨i, hi, left, hleft, right, hright, rfl⟩ := hjoin
  have hmem := (Tables.mem_of_table hi).1
  obtain ⟨hl, hr⟩ := h.plain.columns e he
  exact ⟨h.plain.names i hmem, (h.sound.aliases.isAlias _ (h.sound.used i hmem)).isIdentifier,
    h.plain_qualify hleft hl, h.plain_qualify hright hr⟩

theorem Fits.plain_source (h : p.Fits ops db schema ms base anchor kept) :
    ∃ name aliasName, p.tables.source = some (.table name aliasName) ∧ isIdentifier name ∧
      isIdentifier aliasName := by
  obtain ⟨i, rest, hi, -⟩ := h.source
  have hmem : i ∈ p.tables.instances := hi ▸ List.mem_cons_self
  refine ⟨i.name, i.aliasName, ?_, h.plain.names i hmem,
    (h.sound.aliases.isAlias _ (h.sound.used i hmem)).isIdentifier⟩
  rw [Tables.source, hi]
  rfl

theorem writing_boundText (p : JoinPlan) {column : Column} (h : column.Plain) :
    Writing (p.boundText column) :=
  ⟨fun _ => rfl, fun _ => rfl,
    fun m => Sql.level_column (p.isIdentifier_cell m).1 (p.isIdentifier_cell m).2,
    Sql.level_column h.1 h.2⟩

/-- What is known of the statement of a plan. -/
structure Built (p : JoinPlan) (column : Column) (predicate : Predicate) (t : Statement) :
    Prop where
  params : t.params = predicate.params
  source : ∃ name aliasName, t.select.source = some (.table name aliasName) ∧ isIdentifier name ∧
    isIdentifier aliasName
  joins : ∀ j ∈ t.select.joins, j.Plain
  condition : t.select.condition.getD "" =
    String.join (predicate.segments.map (p.boundText column))
  groupBy : t.select.groupBy = []
  orderBy : t.select.orderBy = []
  limit : t.select.limit = none
  offset : t.select.offset = none

theorem Fits.built (h : p.Fits ops db schema ms base anchor kept) {column : Column}
    (hp : predicate.Compiled schema ms)
    (hcolumns : ∀ m ∈ predicate.mentions, ∃ c, p.column? m = some c) {t : Statement}
    (ht : p.statement column predicate = .ok t) : p.Built column predicate t := by
  simp only [JoinPlan.statement, h.bind_eq column hp hcolumns, bind_eq_ok, pure_eq_ok,
    Except.ok.injEq] at ht
  obtain ⟨_, rfl, js, hjs, rfl⟩ := ht
  refine ⟨rfl, h.plain_source, h.plain_joins hjs, ?_, rfl, rfl, rfl, rfl⟩
  dsimp only
  split
  · rename_i hempty
    exact (String.isEmpty_iff.mp hempty).symm
  · rfl

variable {column : Column} {t : Statement}

theorem Built.surrounds (h : p.Built column predicate t) {s : Sql.Select} (hs : s.Plain)
    (hsource : s.source = t.select.source) (hcondition : s.condition = t.select.condition)
    (d : Sql.Dialect) :
    Surrounds (s.unpaged.render d) (String.join (predicate.segments.map (p.boundText column))) := by
  obtain ⟨name, aliasName, htable, hname, halias⟩ := h.source
  have hsurrounds := Sql.Select.surrounds_condition hs (hsource.trans htable) hname halias d
  rwa [hcondition, h.condition] at hsurrounds

/-- A statement with the tables and the condition of a plan. -/
theorem Built.linesUp (h : p.Built column predicate t) (hcolumn : column.Plain)
    (hp : predicate.Compiled schema ms) {s : Sql.Select} (hs : s.Plain)
    (hsource : s.source = t.select.source) (hcondition : s.condition = t.select.condition)
    (d : Sql.Dialect) :
    LinesUp predicate ⟨s.render d, t.params⟩
      (Sql.Token.render (Sql.spaced (d.page s.limit s.offset))) := by
  have hwrite := p.writing_boundText hcolumn
  rw [h.params]
  exact linesUp_of_surrounds hwrite (hp.neat hwrite) (h.surrounds hs hsource hcondition d)

theorem Built.page_eq (h : p.Built column predicate t) (d : Sql.Dialect) :
    Sql.Token.render (Sql.spaced (d.page t.select.limit t.select.offset)) = "" := by
  rw [h.limit, h.offset, Sql.render_page_none]

/-- A statement that counts the rows of another one. -/
theorem Built.linesUp_countBy (h : p.Built column predicate t) (hcolumn : column.Plain)
    (hp : predicate.Compiled schema ms) {s : Sql.Select} (hs : s.Plain)
    (hsource : s.source = t.select.source) (hcondition : s.condition = t.select.condition)
    (hlimit : s.limit = none) (hoffset : s.offset = none) {derived counted count : String}
    {names : List String} (hderived : IsAlias derived) (hcounted : IsAlias counted)
    (hcount : IsAlias count) (hnames : ∀ n ∈ names, IsAlias n) (d : Sql.Dialect) :
    LinesUp predicate ⟨(countBy s derived counted count names).render d, t.params⟩ "" := by
  have hwrite := p.writing_boundText hcolumn
  have hinner := h.surrounds hs hsource hcondition d
  rw [Sql.Select.unpaged_eq hlimit hoffset] at hinner
  have houter := Sql.Select.surrounds_derived (plain_countBy s hderived hcounted hcount hnames) rfl
    hderived.isIdentifier rfl d
  rw [h.params, ← Sql.render_page_none d]
  exact linesUp_of_surrounds hwrite (hp.neat hwrite) (houter.trans hinner)

end

end JoinPlan

end AspectQuery
