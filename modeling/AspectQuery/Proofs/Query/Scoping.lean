import AspectQuery.Proofs.Query.Values
/-!
# Queries are well scoped

All statements of a compiled query are well scoped, and a row with the columns of a statement
answers every alias that is recorded for reading it.
-/

set_option autoImplicit false

namespace AspectQuery

open Aliases (numbered)
open AliasKey (tableStem columnStem)
open Sql (Contents Operators)

namespace ItemQuery

/-- All statements are well scoped and number their outputs. What is recorded for reading a row is
the output for the item, for an aspect or for an attribute, and is answered with the value there. -/
structure WellScoped (q : ItemQuery) : Prop where
  primary : ∃ f s, q.primary.frame q.schema q.predicate {} = .ok f ∧ q.primaryStatement = .ok s ∧
    s.toStatement.WellScoped ∧ s.select.Numbered ∧ q.primary.Columns q.schema f s ∧
      ∀ a ∈ s.names, s.select.Answers a
  collection : ∀ m ∈ q.collections, ∃ f s,
    Collection.frame q.schema q.predicate m.target q.necessary {} = .ok f ∧
      q.collectionStatement m = .ok s ∧ s.toStatement.WellScoped ∧ s.select.Numbered ∧
        Collection.Columns f s ∧ ∀ a ∈ [s.itemId, s.value], s.select.Answers a

theorem Compiled.wellScoped {q : ItemQuery} (hs : q.schema.Proper) (h : q.Compiled q.schema) :
    q.WellScoped := by
  constructor
  · obtain ⟨ms, hknown⟩ := h.primary
    obtain ⟨f, s, aliases, hframe, hitems, hcolumns⟩ :=
      Primary.columns_items hknown hs Aliases.sound_empty q.options.dialect
    obtain ⟨hscoped, hnumbered, hnames⟩ := Primary.wellScoped_items hknown hs hitems
    refine ⟨f, s, hframe, h.primaryStatement_eq_ok_iff.mpr ⟨aliases, hitems⟩, hscoped, hnumbered,
      hcolumns, ?_⟩
    exact fun a ha => hscoped.answers (hnames ▸ ha)
  · intro m hm
    obtain ⟨ms, hknown⟩ := h.known_collection hm
    obtain ⟨f, s, aliases, hframe, hcorrelated, hcolumns⟩ :=
      Collection.columns_correlated hknown hs Aliases.sound_empty
    obtain ⟨hscoped, hnumbered, hnames⟩ := Collection.wellScoped_correlated hknown hs hcorrelated
    refine ⟨f, s, hframe, h.collectionStatement_eq_ok_iff.mpr ⟨aliases, hcorrelated⟩, hscoped,
      hnumbered, hcolumns, ?_⟩
    exact fun a ha => hscoped.answers (hnames ▸ ha)

end ItemQuery

namespace ValueQuery

section

variable {ops : Operators} {db : Contents} {ms : Mentions} {q : ValueQuery} {f : Frame}

theorem Frame.Fits.get?_key (hf : f.Fits ops db ms q) :
    f.plan.aliases.get? f.key = none ∧ f.itemPlan.aliases.get? f.key = none := by
  have htable : ∀ id, f.key ≠ .table id := by
    rcases hf.key with hkey | ⟨n, hkey⟩ <;> simp [hkey]
  have hitem : AliasKey.itemId ≠ f.key := by
    rcases hf.key with hkey | ⟨n, hkey⟩ <;> simp [hkey]
  exact ⟨hf.tidy.keys f.key htable, hf.tidy.get?_allot htable hitem columnStem⟩

/-- A statement with the tables and the condition of the frame. -/
theorem Frame.Fits.level (hs : q.schema.Proper) (hf : f.Fits ops db ms q) {s : Sql.Select}
    (hsource : s.source = f.statement.select.source) (hjoins : s.joins = f.statement.select.joins)
    (hcondition : s.condition = f.statement.select.condition)
    (hgroupBy : s.groupBy = f.statement.select.groupBy) {p : JoinPlan}
    (houtputs : f.plan.Outputs f.plan.tables.instances.length 0 s.outputs p)
    (horderBy : ∀ k ∈ s.orderBy, k.column.Scoped f.plan.tables.names) :
    s.Level f.statement.params f.plan.tables.instances.length s.outputs.length := by
  obtain ⟨anchor, hfits, hanchor⟩ := hf.plan
  have hnames := houtputs.names
  rw [← List.range_eq_range'] at hnames
  have hbuilt := hfits.built hf.predicate hf.mentions hf.statement
  exact hfits.level hf.tidy (hfits.plain_anchor hs hanchor) (Tables.scoped_of_qualify hanchor)
    hf.predicate hf.mentions hf.statement hsource hjoins hcondition hnames
    (Sql.Select.forall_columns houtputs.within (hgroupBy.trans hbuilt.groupBy) horderBy)

theorem Frame.Fits.level_distinct (hs : q.schema.Proper) (hf : f.Fits ops db ms q) :
    f.distinct.select.Level f.statement.params f.plan.tables.instances.length 1 := by
  obtain ⟨c, hc⟩ := hf.value
  have hkey := hf.get?_key.1
  exact hf.level hs rfl rfl rfl rfl
    (.cons hf.tidy.counts hkey hc (.nil (hf.tidy.counts.allot_column hkey).2))
    (List.forall_mem_singleton.mpr (Tables.scoped_of_qualify hc))

/-- The item and the value have the first numbers, and the counted statement takes the next ones. -/
theorem Frame.Fits.level_pairs (hs : q.schema.Proper) (hf : f.Fits ops db ms q) :
    f.pairs.Level f.statement.params f.plan.tables.instances.length 2 ∧
      f.itemId = numbered columnStem 0 ∧ f.pairValue = numbered columnStem 1 ∧
      f.derived = numbered tableStem f.plan.tables.instances.length ∧
      f.count = numbered columnStem 2 := by
  obtain ⟨anchor, hfits, hanchor⟩ := hf.plan
  obtain ⟨c, hc⟩ := hf.value
  have hbuilt := hfits.built hf.predicate hf.mentions hf.statement
  have hkeys : ∀ key, (∀ id, key ≠ .table id) → key ≠ .itemId → key ≠ f.key →
      f.pairPlan.aliases.get? key = none := fun key htable hitem hne =>
    (Aliases.get?_allot_of_ne hne.symm _ _).trans
      (hf.tidy.get?_allot htable hitem.symm columnStem)
  have hderivedKey : f.pairPlan.aliases.get? .derived = none := hkeys _ (by simp) (by simp) <| by
    rcases hf.key with hkey | ⟨n, hkey⟩ <;> simp [hkey]
  have hcountKey : (f.pairPlan.allot .derived tableStem).2.aliases.get? .count = none := by
    refine (Aliases.get?_allot_of_ne (by simp) _ _).trans (hkeys _ (by simp) (by simp) ?_)
    rcases hf.key with hkey | ⟨n, hkey⟩ <;> simp [hkey]
  obtain ⟨hitem, hcounts₁⟩ := hf.tidy.counts.allot_column (hf.tidy.keys .itemId (by simp))
  obtain ⟨hvalue, hcounts₂⟩ := hcounts₁.allot_column hf.get?_key.2
  obtain ⟨hderived, hcounts₃⟩ := hcounts₂.allot_table hderivedKey
  obtain ⟨hcount, -⟩ := hcounts₃.allot_column hcountKey
  refine ⟨?_, hitem, hvalue, hderived, hcount⟩
  refine hf.level hs rfl rfl rfl rfl (.cons hf.tidy.counts (hf.tidy.keys .itemId (by simp)) hanchor
    (.cons hcounts₁ hf.get?_key.2 hc (.nil hcounts₂))) ?_
  simp [Frame.pairs, hbuilt.orderBy]

theorem Frame.Fits.wellScoped_grouped (hs : q.schema.Proper) (hf : f.Fits ops db ms q) :
    f.grouped.toStatement.WellScoped := by
  obtain ⟨hlevel, hitem, hvalue, hderived, hcount⟩ := hf.level_pairs hs
  have hscoped := hlevel.wellScoped_countBy 0 [1] (by simp) (by simp)
  rw [← hitem, ← hderived, ← hcount, columnNames, List.map_singleton, ← hvalue] at hscoped
  exact hscoped

end

/-- Both statements are well scoped, and in the one that counts items also the statement that it
counts the rows of. The aliases for reading a row are answered with the value and the count. -/
structure WellScoped (q : ValueQuery) : Prop where
  distinct : ∃ s c, q.distinctStatement = .ok s ∧
    s.select.outputs = [JoinPlan.outputColumn c s.value] ∧ s.toStatement.WellScoped ∧
      s.select.Numbered ∧ s.select.Answers s.value
  grouped : ∃ s pairs derived itemId anchor c, q.groupedStatement = .ok s ∧
    s.select = countBy pairs derived itemId s.count [s.value] ∧
      pairs.outputs = [JoinPlan.outputColumn anchor itemId, JoinPlan.outputColumn c s.value] ∧
        s.toStatement.WellScoped ∧ pairs.Numbered ∧ s.select.Answers s.value ∧
          s.select.Answers s.count

theorem Compiled.wellScoped {q : ValueQuery} (hs : q.schema.Proper) (h : q.Compiled q.schema) :
    q.WellScoped := by
  obtain ⟨ops, db, hdb⟩ := exists_keyed q.schema
  obtain ⟨f, ms, hdistinct, hgrouped, hf⟩ := h.exists_frame hs hdb
  constructor
  · have hlevel := hf.level_distinct hs
    refine ⟨_, _, hdistinct, rfl, hlevel.wellScoped, hlevel.isNumbered, ?_⟩
    exact hlevel.wellScoped.answers List.mem_cons_self
  · have hscoped := hf.wellScoped_grouped hs
    have hnames : f.grouped.select.names = [f.count, f.pairValue] := names_countBy _ _ _ _ _
    refine ⟨_, _, _, _, _, _, hgrouped, rfl, rfl, hscoped, (hf.level_pairs hs).1.isNumbered,
      hscoped.answers ?_, hscoped.answers ?_⟩
    · rw [hnames]
      exact List.mem_cons_of_mem _ List.mem_cons_self
    · rw [hnames]
      exact List.mem_cons_self

end ValueQuery

/-- Every statement of every query names only columns of its tables, gives no alias twice, and
answers the aliases that it is read by. -/
theorem statements_well_scoped {d : SchemaDefinition} {naming : Naming} {schema : Schema}
    (hschema : Schema.ofDefinition d naming = .ok schema) (options : Options) :
    (∀ request q, ItemQuery.ofRequest schema options request = .ok q →
      q.WellScoped ∧ ∀ id, (q.only id).WellScoped) ∧
    ∀ path necessary filter q, ValueQuery.compile schema options path necessary filter = .ok q →
      q.WellScoped := by
  have hproper := Schema.proper_of_ofDefinition hschema
  constructor
  · intro request q hq
    have hcompiled := ItemQuery.compiled_ofRequest hproper hq
    obtain rfl := hcompiled.schema_eq
    exact ⟨hcompiled.wellScoped hproper, fun id => (hcompiled.only id).wellScoped hproper⟩
  · intro path necessary filter q hq
    have hcompiled := ValueQuery.compiled_of_compile hproper hq
    obtain rfl := hcompiled.schema_eq
    exact hcompiled.wellScoped hproper

open Predicate (films filmSchema filmFilter) in
theorem statements_well_scoped_films :
    let request : Request := {
      necessary := ["film"]
      select := [⟨"film", "title"⟩, ⟨"film", "genre"⟩]
      filter := some filmFilter }
    Schema.ofDefinition films {} = .ok filmSchema ∧
      (∃ q, ItemQuery.ofRequest filmSchema {} request = .ok q ∧ q.WellScoped ∧
        ∀ id, (q.only id).WellScoped) ∧
      ∃ q, ValueQuery.compile filmSchema {} ⟨"film", "title"⟩ [] (some filmFilter) = .ok q ∧
        q.WellScoped := by
  intro request
  have hschema : Schema.ofDefinition films {} = .ok filmSchema := rfl
  obtain ⟨q, hq⟩ : ∃ q, ItemQuery.ofRequest filmSchema {} request = .ok q := ⟨_, rfl⟩
  obtain ⟨r, hr⟩ : ∃ r,
      ValueQuery.compile filmSchema {} ⟨"film", "title"⟩ [] (some filmFilter) = .ok r := ⟨_, rfl⟩
  obtain ⟨hitems, hvalues⟩ := statements_well_scoped hschema {}
  exact ⟨hschema, ⟨q, hq, hitems request q hq⟩, r, hr, hvalues _ _ _ r hr⟩

end AspectQuery
