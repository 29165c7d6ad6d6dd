import AspectQuery.Proofs.Predicate.Columns
import AspectQuery.Proofs.Statement.Numbering
/-!
# Statements are well scoped

In a namespace of its own a statement numbers its tables in the order of FROM and JOIN and its
outputs in the order of SELECT. All columns at each level are those of tables of this level, and no
two aliases of it are the same.
-/

set_option autoImplicit false

namespace AspectQuery

open Aliases (numbered)
open AliasKey (tableStem columnStem)
open Sql (Column Contents Operators Record subqueryAliases symbols)

/-- All columns are in scope and all aliases are different, at each level of the statement. -/
structure Statement.WellScoped (s : Statement) : Prop where
  levels : ∀ t ∈ s.select.levels, t.Scoped s.params
  /-- The tables of the database are numbered in the order of FROM and JOIN. -/
  tables : ∀ t ∈ s.select.levels, ∀ name aliasName, t.source = some (.table name aliasName) →
    t.tables = tableNames (List.range t.tables.length)
  named : ∀ t ∈ s.select.levels, ∀ o ∈ t.outputs, o.aliasName.isSome
  names : ∀ t ∈ s.select.levels, t.names.Pairwise fun a b => Row.sameName a b = false
  apart : ∀ t ∈ s.select.levels,
    (s.select.levels.flatMap Sql.Select.tables ++ t.names ++ subqueryAliases).Nodup

/-- The outputs are numbered in their order. -/
def Sql.Select.Numbered (s : Sql.Select) : Prop :=
  s.names = columnNames (List.range s.outputs.length)

theorem Sql.Select.mem_levels_self (s : Sql.Select) : s ∈ s.levels := by
  obtain ⟨_, _, _, _, _, _, _, _, _⟩ := s
  exact List.mem_cons_self

theorem Sql.Select.forall_columns {s : Sql.Select} {P : Column → Prop}
    (houtputs : ∀ o ∈ s.outputs, P o.expression.operand) (hgroupBy : s.groupBy = [])
    (horderBy : ∀ k ∈ s.orderBy, P k.column) : ∀ c ∈ s.columns, P c := by
  intro c hc
  rcases List.mem_append.mp hc with hc | hc
  · rw [hgroupBy, List.append_nil] at hc
    obtain ⟨o, ho, rfl⟩ := List.mem_map.mp hc
    exact houtputs o ho
  · obtain ⟨k, hk, rfl⟩ := List.mem_map.mp hc
    exact horderBy k hk

theorem Sql.Select.names_of_map {s : Sql.Select} {ns : List String}
    (h : s.outputs.map Sql.Output.aliasName = ns.map some) : s.names = ns := by
  have hnames : s.names = (s.outputs.map Sql.Output.aliasName).filterMap id := by
    rw [List.filterMap_map]
    rfl
  rw [hnames, h, List.filterMap_map]
  exact List.filterMap_some

theorem Statement.WellScoped.answers {s : Statement} (h : s.WellScoped) {a : String}
    (ha : a ∈ s.select.names) : s.select.Answers a := by
  have hself := s.select.mem_levels_self
  exact Sql.Select.answers_of_mem (h.named _ hself) (h.names _ hself) ha

section

variable (s : Sql.Select) (derived counted count : String) (outputs : List String)

theorem tables_countBy : (countBy s derived counted count outputs).tables = [derived] := rfl

theorem levels_countBy : (countBy s derived counted count outputs).levels =
    countBy s derived counted count outputs :: s.levels := rfl

theorem names_countBy : (countBy s derived counted count outputs).names = count :: outputs := by
  simp [countBy, Sql.Select.names, JoinPlan.outputColumn, List.filterMap_map, Function.comp_def]

/-- All columns are outputs of the counted statement. -/
theorem mem_columns_countBy {c : Column}
    (h : c ∈ (countBy s derived counted count outputs).columns) :
    c.qualifier = derived ∧ c.name ∈ counted :: outputs := by
  simp only [Sql.Select.columns, countBy, List.map_cons, List.map_map, List.cons_append,
    List.mem_cons, List.mem_append, List.mem_map, Function.comp_apply] at h
  rcases h with rfl | (⟨n, hn, rfl⟩ | ⟨n, hn, rfl⟩) | ⟨n, hn, rfl⟩
  · exact ⟨rfl, List.mem_cons_self⟩
  · exact ⟨rfl, List.mem_cons_of_mem _ hn⟩
  · exact ⟨rfl, List.mem_cons_of_mem _ hn⟩
  · exact ⟨rfl, List.mem_cons_of_mem _ hn⟩

theorem scoped_countBy (params : List Value) (h : ∀ n ∈ counted :: outputs, n ∈ s.names) :
    (countBy s derived counted count outputs).Scoped params := by
  refine ⟨fun c hc => ?_, trivial, by simp [countBy], ?_⟩
  · exact List.mem_singleton.mpr (mem_columns_countBy _ _ _ _ _ hc).1
  · rintro query aliasName hsource c hc -
    obtain ⟨rfl, -⟩ := Sql.Source.derived.inj (Option.some.inj hsource)
    exact h _ (mem_columns_countBy _ _ _ _ _ hc).2

theorem named_countBy : ∀ o ∈ (countBy s derived counted count outputs).outputs,
    o.aliasName.isSome := by
  refine List.forall_mem_cons.mpr ⟨rfl, fun o ho => ?_⟩
  obtain ⟨c, -, rfl⟩ := List.mem_map.mp ho
  rfl

end

/-- A level over tables of the database whose tables and outputs are numbered. -/
structure Sql.Select.Level (s : Sql.Select) (params : List Value) (tables columns : Nat) :
    Prop where
  source : ∃ name aliasName, s.source = some (.table name aliasName)
  tables_eq : s.tables = tableNames (List.range tables)
  within : s.Scoped params
  names : s.outputs.map Sql.Output.aliasName = (columnNames (List.range columns)).map some

namespace Sql.Select.Level

variable {s : Sql.Select} {params : List Value} {tables columns : Nat}

theorem levels_eq (h : s.Level params tables columns) : s.levels = [s] := by
  obtain ⟨name, aliasName, hsource⟩ := h.source
  obtain ⟨_, _, _, _, _, _, _, _, _⟩ := s
  obtain rfl := hsource
  rfl

theorem names_eq (h : s.Level params tables columns) :
    s.names = columnNames (List.range columns) := names_of_map h.names

theorem length_outputs (h : s.Level params tables columns) : s.outputs.length = columns := by
  simpa [columnNames] using congrArg List.length h.names

theorem named (h : s.Level params tables columns) : ∀ o ∈ s.outputs, o.aliasName.isSome := by
  intro o ho
  have hmem : o.aliasName ∈ (columnNames (List.range columns)).map some :=
    h.names ▸ List.mem_map_of_mem ho
  obtain ⟨a, -, heq⟩ := List.mem_map.mp hmem
  exact heq ▸ rfl

theorem isNumbered (h : s.Level params tables columns) : s.Numbered := by
  rw [Numbered, h.names_eq, h.length_outputs]

theorem wellScoped (h : s.Level params tables columns) :
    (⟨s, params⟩ : Statement).WellScoped := by
  have hlength : s.tables.length = tables := by simp [h.tables_eq, tableNames]
  refine ⟨?_, ?_, ?_, ?_, ?_⟩ <;> rw [h.levels_eq] <;>
    refine List.forall_mem_singleton.mpr ?_
  · exact h.within
  · exact fun _ _ _ => hlength ▸ h.tables_eq
  · exact h.named
  · exact h.names_eq ▸ pairwise_columnNames List.nodup_range
  · rw [List.flatMap_singleton, h.tables_eq, h.names_eq]
    exact nodup_names List.nodup_range List.nodup_range

/-- The count of the rows of a level takes the next numbers. -/
theorem wellScoped_countBy (h : s.Level params tables columns) (counted : Nat) (is : List Nat)
    (his : ∀ i ∈ counted :: is, i < columns) (hnodup : is.Nodup) :
    (⟨countBy s (numbered tableStem tables) (numbered columnStem counted)
      (numbered columnStem columns) (columnNames is), params⟩ : Statement).WellScoped := by
  have hlength : s.tables.length = tables := by simp [h.tables_eq, tableNames]
  have hcounted : ∀ n ∈ numbered columnStem counted :: columnNames is, n ∈ s.names := by
    intro n hn
    have hmem : n ∈ columnNames (counted :: is) := hn
    obtain ⟨i, hi, rfl⟩ := List.mem_map.mp hmem
    rw [h.names_eq]
    exact List.mem_map_of_mem (List.mem_range.mpr (his i hi))
  have hts : (tables :: List.range tables).Nodup :=
    List.nodup_cons.mpr ⟨by simp, List.nodup_range⟩
  have hcs : (columns :: is).Nodup := by
    refine List.nodup_cons.mpr ⟨fun hmem => ?_, hnodup⟩
    exact absurd (his _ (List.mem_cons_of_mem _ hmem)) (Nat.lt_irrefl _)
  have htables : ∀ d, [d, s].flatMap Sql.Select.tables = d.tables ++ s.tables := by simp
  refine ⟨?_, ?_, ?_, ?_, ?_⟩ <;> rw [levels_countBy, h.levels_eq] <;>
    refine List.forall_mem_cons.mpr ⟨?_, List.forall_mem_singleton.mpr ?_⟩
  · exact scoped_countBy _ _ _ _ _ _ hcounted
  · exact h.within
  · intro name aliasName hsource
    cases hsource
  · exact fun _ _ _ => hlength ▸ h.tables_eq
  · exact named_countBy _ _ _ _ _
  · exact h.named
  · rw [names_countBy]
    exact pairwise_columnNames hcs
  · exact h.names_eq ▸ pairwise_columnNames List.nodup_range
  · rw [htables, tables_countBy, names_countBy, h.tables_eq]
    exact nodup_names hts hcs
  · rw [htables, tables_countBy, h.tables_eq, h.names_eq]
    exact nodup_names hts List.nodup_range

end Sql.Select.Level

namespace JoinPlan

section

variable {ops : Operators} {db : Contents} {schema : Schema} {ms : Mentions} {base : String}
  {anchor : ColumnRef} {kept : Record → Bool} {p : JoinPlan} {predicate : Predicate}
  {column : Column}

/-- A condition names only columns of the tables, apart from those of its subqueries. -/
theorem scoped_condition (hplain : column.Plain) (hcolumn : column.Scoped p.tables.names)
    {c : Condition} (hc : c.Proper)
    (hmentions : ∀ m ∈ c.mentions, (p.cell m).Scoped p.tables.names) :
    ∃ ls f, Sql.lexemes? (symbols (String.join (c.segments.map (p.boundText column)))) = some ls ∧
      (∀ d, .operand (.cell d) ∈ ls → d.Scoped (p.tables.names ++ subqueryAliases)) ∧
      Sql.formula? (Segment.params c.segments)
        (symbols (String.join (c.segments.map (p.boundText column)))) = some f ∧
      f.Scoped p.tables.names := by
  have hvalues : c.segments.flatMap (fun s => s.value?.toList) = Segment.params c.segments :=
    (List.filterMap_eq_flatMap_toList ..).symm
  have hsymbols : symbols (String.join (c.segments.map (p.boundText column))) =
      c.segments.flatMap fun s => symbols (p.boundText column s) := by
    rw [symbols_join, List.flatMap_map]
  have hformula := (c.means (Wording.bound p column hplain.1 hplain.2) hc).formula?
  have hsubquery : ∀ a ∈ subqueryAliases, ∀ name,
      Column.Scoped (p.tables.names ++ subqueryAliases) ⟨a, name⟩ :=
    fun a ha _ => List.mem_append_right _ ha
  have howner : (Wording.bound p column hplain.1 hplain.2).Names
      (Column.Scoped (p.tables.names ++ subqueryAliases)) [.anchor] :=
    .anchor fun d hd => Sql.Operand.cell.inj hd ▸ List.mem_append_left _ hcolumn
  have hmention : ∀ m ∈ c.mentions, (Wording.bound p column hplain.1 hplain.2).Names
      (Column.Scoped (p.tables.names ++ subqueryAliases)) [.column m] := fun m hm =>
    .column fun d hd => Sql.Operand.cell.inj hd ▸ List.mem_append_left _ (hmentions m hm)
  obtain ⟨ls, ⟨raw, hraw, hsupply⟩, hwithin⟩ :=
    c.names_segments hsubquery howner hc hmention
  have hscoped : (c.formula (fun m => .cell (p.cell m)) (.cell column)).Scoped p.tables.names :=
    c.scoped_formula hcolumn hmentions
  rw [hsymbols]
  exact ⟨raw, _, hraw, hwithin.of_supply hsupply, hvalues ▸ hformula, hscoped⟩

/-- The text of the condition of a statement names only columns of the tables. -/
theorem Fits.scoped_text (h : p.Fits ops db schema ms base anchor kept) (hplain : column.Plain)
    (hcolumn : column.Scoped p.tables.names) (hp : predicate.Compiled schema ms)
    (hmentions : ∀ m ∈ predicate.mentions, ∃ c, p.column? m = some c) {text : String}
    (htext : text ∈ if (String.join (predicate.segments.map (p.boundText column))).isEmpty then none
      else some (String.join (predicate.segments.map (p.boundText column)))) :
    ∃ ls f, Sql.lexemes? (symbols text) = some ls ∧
      (∀ d, .operand (.cell d) ∈ ls → d.Scoped (p.tables.names ++ subqueryAliases)) ∧
      Sql.formula? (Segment.params predicate.segments) (symbols text) = some f ∧
      f.Scoped p.tables.names := by
  split at htext
  · simp at htext
  · rename_i hne
    obtain rfl := Option.some.inj htext
    obtain ⟨_ | c⟩ := predicate
    · exact absurd rfl hne
    · refine scoped_condition hplain hcolumn (hp c rfl).proper fun m hm => ?_
      obtain ⟨d, hd⟩ := hmentions m hm
      exact Tables.scoped_of_qualify (h.cell_eq ((hp c rfl).known m hm) hd).1

/-- A statement over the tables and under the condition of a tidy plan. -/
theorem Fits.level (h : p.Fits ops db schema ms base anchor kept) (htidy : p.Tidy)
    (hplain : column.Plain) (hcolumn : column.Scoped p.tables.names)
    (hp : predicate.Compiled schema ms)
    (hmentions : ∀ m ∈ predicate.mentions, ∃ c, p.column? m = some c) {t : Statement}
    (ht : p.statement column predicate = .ok t) {s : Sql.Select}
    (hsource : s.source = t.select.source) (hjoins : s.joins = t.select.joins)
    (hcondition : s.condition = t.select.condition) {columns : Nat}
    (hnames : s.outputs.map Sql.Output.aliasName = (columnNames (List.range columns)).map some)
    (hcolumns : ∀ c ∈ s.columns, c.Scoped p.tables.names) :
    s.Level t.params p.tables.instances.length columns := by
  obtain ⟨js, hjs, hnamed, hscoped⟩ := htidy.joined
  simp only [JoinPlan.statement, h.bind_eq column hp hmentions, hjs, bind_eq_ok, pure_eq_ok,
    Except.ok.injEq] at ht
  obtain ⟨_, rfl, _, rfl, rfl⟩ := ht
  have hbases : s.bases = p.tables.names.take 1 := by
    rw [Sql.Select.bases, hsource, List.take_one, Tables.names, List.head?_map, Tables.source,
      Option.map_map]
    rfl
  have htables : s.tables = p.tables.names := by
    rw [Sql.Select.tables, hbases, hjoins, hnamed, ← List.drop_one, List.take_append_drop]
  obtain ⟨i, rest, hi, -⟩ := h.source
  have htable : s.source = some (.table i.name i.aliasName) := by
    rw [hsource]
    simp [Tables.source, hi]
  refine ⟨⟨_, _, htable⟩, htables.trans htidy.names, ?_, hnames⟩
  refine ⟨htables ▸ hcolumns, ?_, fun text htext => ?_, fun query aliasName hderived => ?_⟩
  · rw [hbases, hjoins]
    exact hscoped
  · rw [hcondition] at htext
    rw [htables]
    exact h.scoped_text hplain hcolumn hp hmentions htext
  · simp [htable] at hderived

end

end JoinPlan

namespace Primary

section

variable {schema : Schema} {ms : Mentions} {predicate : Predicate} {q : Primary}

theorem scoped_itemOrder {f : Frame} (h : f.Tidy) (dialect : Sql.Dialect) :
    ∀ k ∈ itemOrder dialect q f.anchor f.order, k.column.Scoped f.plan.tables.names := by
  intro k hk
  unfold itemOrder at hk
  split at hk
  · rw [List.mem_singleton.mp hk]
    exact h.anchor
  · exact h.order k hk

theorem wellScoped_items (h : q.Known schema ms predicate) (hs : schema.Proper)
    {dialect : Sql.Dialect} {s : ItemStatement} {aliases' : Aliases AliasKey}
    (hitems : q.items schema dialect predicate {} = .ok (s, aliases')) :
    s.toStatement.WellScoped ∧ s.select.Numbered ∧ s.select.names = s.names := by
  obtain ⟨ops, db, hdb⟩ := exists_keyed schema
  obtain ⟨f, hframe, hf⟩ := fits_frame h hdb hs Aliases.sound_empty
  obtain ⟨anchor, hfits, hanchor⟩ := hf.plan
  have htidy := tidy_frame hframe
  have hnamed := named_of_frame h hs Aliases.sound_empty hframe
  have hids : (f.plan.tables.instances.map TableInstance.id).Nodup :=
    hfits.sound.ordered.imp fun hlt => Nat.ne_of_lt hlt
  have htables := nodup_tables hframe hids hf.requested
  obtain ⟨hnames, -⟩ := names_items hframe hfits.sound.aliases htables hitems
  obtain ⟨f', hframe', presenceColumns, presence, p₁, hpresence, columns, attributes, p₂,
    hattributes, rfl, -⟩ := items_eq_ok_iff.mp hitems
  obtain rfl := Except.ok.inj (hframe.symm.trans hframe')
  have hitem := htidy.plan.keys .itemId (by simp)
  have hnew : ∀ key, (∀ id, key ≠ .table id) → key ≠ .itemId →
      (f.plan.allot .itemId columnStem).2.aliases.get? key = none := fun key htable hne =>
    htidy.plan.get?_allot htable hne.symm columnStem
  obtain ⟨houtputs₁, hmention⟩ := outputs_outputPresence
    (htidy.plan.counts.allot_column hitem).2 htables (fun e _ => hnew _ (by simp) (by simp))
    hpresence
  have houtputs₂ := JoinPlan.outputs_outputAttributes houtputs₁.counts
    (fun m _ _ => (hmention m.index).trans (hnew _ (by simp) (by simp))) hattributes
  have houtputs := JoinPlan.Outputs.cons htidy.plan.counts hitem hanchor
    (houtputs₁.append houtputs₂)
  have hall := houtputs.names
  rw [← List.range_eq_range'] at hall
  have hlevel := hfits.level htidy.plan hnamed.anchor htidy.anchor h.predicate hf.mentions
    hf.statement (s := f.itemSelect dialect q (presenceColumns ++ columns)) rfl rfl rfl hall ?_
  · exact ⟨hlevel.wellScoped, hlevel.isNumbered, Sql.Select.names_of_map hnames⟩
  · exact Sql.Select.forall_columns houtputs.within hnamed.built.groupBy
      (scoped_itemOrder htidy dialect)

end

end Primary

namespace Collection

section

variable {schema : Schema} {ms : Mentions} {predicate : Predicate} {target : Attribute}
  {necessary : List AspectId}

theorem scoped_valueOrder {f : Frame} (h : f.Tidy) {naming : Naming} {keys : List Sql.OrderKey}
    (hkeys : valueOrder naming f = .ok keys) :
    ∀ k ∈ keys, k.column.Scoped f.plan.tables.names := by
  unfold valueOrder at hkeys
  split at hkeys
  · obtain rfl := pure_eq_ok.mp hkeys
    exact List.forall_mem_singleton.mpr h.anchor
  · obtain ⟨column, hcolumn, hkeys⟩ := bind_eq_ok.mp hkeys
    obtain rfl := pure_eq_ok.mp hkeys
    exact List.forall_mem_cons.mpr
      ⟨h.anchor, List.forall_mem_singleton.mpr (Tables.scoped_of_qualify hcolumn)⟩

theorem wellScoped_correlated (h : Known schema ms predicate target necessary) (hs : schema.Proper)
    {s : CorrelatedStatement} {aliases' : Aliases AliasKey}
    (hcorrelated : correlated schema predicate target necessary {} = .ok (s, aliases')) :
    s.toStatement.WellScoped ∧ s.select.Numbered ∧ s.select.names = [s.itemId, s.value] := by
  obtain ⟨ops, db, hdb⟩ := exists_keyed schema
  obtain ⟨f, hframe, hf⟩ := fits_frame h hdb hs Aliases.sound_empty
  have htidy := tidy_frame hframe
  have hnamed := named_of_frame h hs Aliases.sound_empty hframe
  obtain ⟨value, hvalue, -⟩ := value_of_frame hframe
  obtain ⟨f', hframe', keys, hkeys, rfl, -⟩ := correlated_eq_ok_iff.mp hcorrelated
  obtain rfl := Except.ok.inj (hframe.symm.trans hframe')
  have hitem := htidy.plan.keys .itemId (by simp)
  have hcounts := (htidy.plan.counts.allot_column hitem).2
  have hvalueKey : (f.plan.allot .itemId columnStem).2.aliases.get? .value = none :=
    htidy.plan.get?_allot (by simp) (by simp) columnStem
  have houtputs := JoinPlan.Outputs.cons htidy.plan.counts hitem hf.anchor
    (.cons hcounts hvalueKey hvalue (.nil (hcounts.allot_column hvalueKey).2))
  have hall := houtputs.names
  rw [← List.range_eq_range'] at hall
  have hlevel := hf.plan.level htidy.plan hnamed.anchor htidy.anchor h.predicate hf.mentions
    hf.statement (s := f.pairs keys) rfl rfl rfl hall ?_
  · refine ⟨hlevel.wellScoped, hlevel.isNumbered, ?_⟩
    simp [Sql.Select.names, Frame.pairs, JoinPlan.outputColumn]
  · exact Sql.Select.forall_columns houtputs.within hnamed.built.groupBy
      (scoped_valueOrder htidy hkeys)

end

end Collection

end AspectQuery
