import AspectQuery.Proofs.Statement.Frame
import Mathlib.Data.List.Nodup
/-!
# The items of a primary statement

A primary statement has one row for each item with all necessary aspects. Whatever else is asked for
is joined loosely, so that it neither adds nor removes a row, and the row shows which requested
aspects the item has and what is stored for it.
-/

set_option autoImplicit false

namespace AspectQuery

open Sql (Column Contents Operators Record Scope)

theorem Sql.Contents.Unique.nodup {db : Contents} {table column : String}
    (h : db.Unique table column) (hnull : ∀ r ∈ db table, r column ≠ .null) :
    ((db table).map fun r => r column).Nodup := by
  rw [List.nodup_iff_count_le_one]
  intro v
  by_cases hv : v = .null
  · have hmem : v ∉ (db table).map fun r => r column := by
      rintro hmem
      obtain ⟨r, hr, rfl⟩ := List.mem_map.mp hmem
      exact hnull r hr hv
    rw [List.count_eq_zero_of_not_mem hmem]
    omega
  · have hle := h v hv
    rw [List.count_eq_countP, List.countP_map, List.countP_eq_length_filter]
    exact hle

namespace JoinPlan

theorem outputAttributes_eq_ok (select : List Mention) (outputs : List (Nat × String))
    {p : JoinPlan} (h : ∀ m ∈ select, ∃ c, p.Finds m c) :
    ∃ columns attributes q, outputAttributes select outputs p = .ok (columns, attributes, q) ∧
      (∀ i a, outputs.lookup i = some a → attributes.lookup i = some a) ∧
      ∀ m ∈ select, outputs.lookup m.index = none → ∃ a c, attributes.lookup m.index = some a ∧
        p.Finds m c ∧ outputColumn c a ∈ columns := by
  induction select generalizing p outputs with
  | nil => exact ⟨[], outputs, p, rfl, fun _ _ => id, by simp⟩
  | cons m rest ih =>
    have hrest : ∀ m ∈ rest, ∃ c, p.Finds m c := fun m hm => h m (List.mem_cons_of_mem _ hm)
    cases hlookup : outputs.lookup m.index with
    | some a =>
      obtain ⟨columns, attributes, q, heq, hold, hnew⟩ := ih outputs hrest
      refine ⟨columns, attributes, q, by simp [outputAttributes, hlookup, heq], hold, ?_⟩
      intro m' hm' hnone
      rcases List.mem_cons.mp hm' with rfl | hm'
      · simp [hlookup] at hnone
      · exact hnew m' hm' hnone
    | none =>
      obtain ⟨c, d, hd, hc⟩ := h m List.mem_cons_self
      obtain ⟨columns, attributes, q, heq, hold, hnew⟩ := ih
        (p := (p.allot (.mention m.index) AliasKey.columnStem).2)
        (outputs ++ [(m.index, (p.allot (.mention m.index) AliasKey.columnStem).1)]) hrest
      refine ⟨outputColumn c (p.allot (.mention m.index) AliasKey.columnStem).1 :: columns,
        attributes, q, ?_, ?_, ?_⟩
      · simp only [outputAttributes, hlookup, hd, hc]
        rw [if_neg (by simp)]
        exact bind_eq_ok.mpr ⟨_, rfl, bind_eq_ok.mpr ⟨_, heq, rfl⟩⟩
      · intro i a hi
        refine hold i a ?_
        rw [List.lookup_append, hi, Option.some_or]
      · intro m' hm' hnone
        by_cases hindex : m'.index = m.index
        · refine ⟨_, c, hold m'.index _ ?_, ⟨d, ?_, hc⟩, List.mem_cons_self⟩
          · rw [List.lookup_append, hnone, Option.none_or, hindex]
            exact List.lookup_cons_self
          · rw [column?, hindex]
            exact hd
        · have hm'' : m' ∈ rest := by
            rcases List.mem_cons.mp hm' with rfl | hm'
            · exact absurd rfl hindex
            · exact hm'
          have hnone' : (outputs ++
              [(m.index, (p.allot (.mention m.index) AliasKey.columnStem).1)]).lookup m'.index =
                none := by
            simp [List.lookup_append, hnone, List.lookup_cons, beq_false_of_ne hindex]
          obtain ⟨a, c', ha, hc', hmem⟩ := hnew m' hm'' hnone'
          exact ⟨a, c', ha, hc', List.mem_cons_of_mem _ hmem⟩

end JoinPlan

namespace Primary

theorem outputPresence_eq_ok (column : String) (requested : List (AspectId × Nat)) {p : JoinPlan}
    (h : ∀ e ∈ requested, ∃ c, p.tables.qualify ⟨e.2, column⟩ = .ok c) :
    ∃ columns presence q, outputPresence column requested p = .ok (columns, presence, q) ∧
      q.tables = p.tables ∧ q.columns = p.columns ∧
      presence.map Prod.fst = requested.map Prod.fst ∧
      ∀ e ∈ presence, ∃ n c, (e.1, n) ∈ requested ∧ p.tables.qualify ⟨n, column⟩ = .ok c ∧
        JoinPlan.outputColumn c e.2 ∈ columns := by
  induction requested generalizing p with
  | nil => exact ⟨[], [], p, rfl, rfl, rfl, rfl, by simp⟩
  | cons e rest ih =>
    obtain ⟨a, n⟩ := e
    obtain ⟨c, hc⟩ := h (a, n) List.mem_cons_self
    obtain ⟨columns, presence, q, heq, htables, hcolumns, hfst, hmem⟩ := ih
      (p := (p.allot (.presence n) AliasKey.columnStem).2) fun e he =>
        h e (List.mem_cons_of_mem _ he)
    refine ⟨JoinPlan.outputColumn c (p.allot (.presence n) AliasKey.columnStem).1 :: columns,
      (a, (p.allot (.presence n) AliasKey.columnStem).1) :: presence, q, ?_, htables, hcolumns,
      by rw [List.map_cons, hfst, List.map_cons], ?_⟩
    · exact bind_eq_ok.mpr ⟨c, hc, bind_eq_ok.mpr ⟨_, heq, rfl⟩⟩
    · intro e he
      rcases List.mem_cons.mp he with rfl | he
      · exact ⟨n, c, List.mem_cons_self, hc, List.mem_cons_self⟩
      · obtain ⟨n', c', hn, hc', hout⟩ := hmem e he
        exact ⟨n', c', List.mem_cons_of_mem _ hn, hc', List.mem_cons_of_mem _ hout⟩

section

variable {ops : Operators} {db : Contents} {schema : Schema} {necessary : List AspectId}

theorem keyed_baseTable (hdb : db.Keyed ops schema)
    (hnecessary : ∀ a ∈ necessary, (schema.aspect? a).isSome) :
    db.Unique (baseTable schema necessary) schema.naming.itemIdColumn ∧
      ∀ r ∈ db (baseTable schema necessary), r schema.naming.itemIdColumn ≠ .null := by
  cases necessary with
  | nil => exact ⟨hdb.item, hdb.item_ne_null⟩
  | cons first rest =>
    obtain ⟨a, ha⟩ := Option.isSome_iff_exists.mp (hnecessary first List.mem_cons_self)
    have htable : baseTable schema (first :: rest) = a.table := by simp [baseTable, ha]
    obtain ⟨hmem, -⟩ := Schema.aspect?_eq_some ha
    exact htable ▸ ⟨hdb.aspect a hmem, hdb.aspect_ne_null a hmem⟩

theorem mem_rows_iff (hdb : db.Keyed ops schema) (hne : necessary ≠ []) (v : Value) :
    (∃ r ∈ db (baseTable schema necessary), necessary.all (present db schema r) ∧
        r schema.naming.itemIdColumn = v) ↔
      ∀ a ∈ necessary, HasAspect db schema v a := by
  constructor
  · rintro ⟨r, -, hall, rfl⟩ a ha
    exact (isSome_mainRow?_iff hdb).mp (List.all_eq_true.mp hall a ha)
  · intro h
    obtain ⟨first, rest, rfl⟩ := List.exists_cons_of_ne_nil hne
    obtain ⟨a, ha, r, hr, rfl⟩ := h first List.mem_cons_self
    have htable : baseTable schema (first :: rest) = a.table := by simp [baseTable, ha]
    refine ⟨r, htable ▸ hr, List.all_eq_true.mpr fun b hb => ?_, rfl⟩
    exact (isSome_mainRow?_iff hdb).mpr (h b hb)

end

/-- What the rows of FROM and JOIN show of the items. -/
structure Shows (ops : Operators) (db : Contents) (schema : Schema) (predicate : Predicate)
    (q : Primary) (f : Frame) (s : ItemStatement) : Prop where
  /-- No item has two rows. -/
  nodup : ((s.select.scopes ops db).map fun σ => σ.cell f.anchor).Nodup
  all : q.necessary = [] → ((s.select.scopes ops db).map fun σ => σ.cell f.anchor) =
    (db schema.naming.itemTable).map fun r => r schema.naming.itemIdColumn
  mem : q.necessary ≠ [] → ∀ v, v ∈ ((s.select.scopes ops db).map fun σ => σ.cell f.anchor) ↔
    ∀ a ∈ q.necessary, HasAspect db schema v a
  itemId : JoinPlan.outputColumn f.anchor s.itemId ∈ s.select.outputs
  mem_presence : ∀ a, a ∈ s.presence.map Prod.fst ↔ a ∈ q.necessary ∨ a ∈ q.optional
  presence : ∀ e ∈ s.presence, ∃ c, JoinPlan.outputColumn c e.2 ∈ s.select.outputs ∧
    ∀ σ ∈ s.select.scopes ops db, σ.cell c ≠ .null ↔ HasAspect db schema (σ.cell f.anchor) e.1
  select : ∀ m ∈ q.select, ∃ a c, s.attributes.lookup m.index = some a ∧ f.plan.Finds m c ∧
    JoinPlan.outputColumn c a ∈ s.select.outputs
  mentions : ∀ m ∈ predicate.mentions, ∃ c, f.plan.Finds m c
  sort : ∀ e ∈ q.sort, e.1.target.bounded →
    ∃ c, f.plan.Finds e.1 c ∧ ⟨c, some e.2⟩ ∈ s.select.orderBy
  value : ∀ m c, m ∈ q.select ∨ m ∈ predicate.mentions ∨
      (m ∈ q.sort.map Prod.fst ∧ m.target.bounded) → f.plan.Finds m c →
    ∀ σ ∈ s.select.scopes ops db, σ.cell c = stored db schema (σ.cell f.anchor) m.target

section

variable {ops : Operators} {db : Contents} {schema : Schema} {ms : Mentions} {predicate : Predicate}
  {q : Primary} {f : Frame}

theorem Frame.Fits.finds (hf : f.Fits ops db schema ms predicate q) {m : Mention}
    (hm : m.Known schema ms) (hc : ∃ c, f.plan.column? m = some c) :
    f.plan.Finds m (f.plan.cell m) := by
  obtain ⟨anchor, hfits, -⟩ := hf.plan
  obtain ⟨c, hc⟩ := hc
  exact ⟨c, hc, (hfits.cell_eq hm hc).1⟩

theorem Frame.Fits.selects (hf : f.Fits ops db schema ms predicate q) (hs : schema.Proper)
    (hp : predicate.Compiled schema ms) {s : Statement} (h : s.Extends f.statement) :
    s.Selects ops db schema predicate f.anchor
      (((db (baseTable schema q.necessary)).filter fun r =>
        q.necessary.all (present db schema r)).map fun r =>
          f.plan.tables.scope (records db schema r)) := by
  obtain ⟨anchor, hfits, hqualify⟩ := hf.plan
  exact hfits.selects hs hqualify hp hf.mentions hf.statement h

theorem Frame.Fits.cell_anchor (hf : f.Fits ops db schema ms predicate q) {r : Record}
    (hr : r ∈ db (baseTable schema q.necessary)) :
    (f.plan.tables.scope (records db schema r)).cell f.anchor = r schema.naming.itemIdColumn := by
  obtain ⟨anchor, hfits, hqualify⟩ := hf.plan
  exact hfits.cell_anchor hqualify hr

theorem Frame.Fits.cell_of_finds (hf : f.Fits ops db schema ms predicate q) {m : Mention}
    (hm : m.Known schema ms) {c : Column} (hc : f.plan.Finds m c) {r : Record}
    (hr : r ∈ db (baseTable schema q.necessary)) :
    (f.plan.tables.scope (records db schema r)).cell c =
      stored db schema (r schema.naming.itemIdColumn) m.target := by
  obtain ⟨anchor, hfits, -⟩ := hf.plan
  obtain ⟨d, hd, hqualify⟩ := hc
  obtain rfl := Except.ok.inj (hqualify.symm.trans (hfits.cell_eq hm hd).1)
  exact hfits.cell_scope hm hd hr

/-- The presence of an aspect is the id of the item in the row of the aspect. -/
theorem Frame.Fits.cell_presence (hf : f.Fits ops db schema ms predicate q)
    (hdb : db.Keyed ops schema)
    {a : AspectId} {n : Nat} (ha : (a, n) ∈ f.requested) :
    ∃ c, f.plan.tables.qualify ⟨n, schema.naming.itemIdColumn⟩ = .ok c ∧
      ∀ r, (f.plan.tables.scope (records db schema r)).cell c ≠ .null ↔
        HasAspect db schema (r schema.naming.itemIdColumn) a := by
  obtain ⟨anchor, hfits, -⟩ := hf.plan
  obtain ⟨i, hi, rfl, hpurpose⟩ := hf.requested _ ha
  refine ⟨_, Tables.qualify_of_mem hfits.sound hi _, fun r => ?_⟩
  rw [Tables.cell_scope hfits.sound.distinct hi, hpurpose]
  exact records_aspect_itemId hdb r a

theorem Frame.Fits.items_eq (hf : f.Fits ops db schema ms predicate q) (hs : schema.Proper)
    (hp : predicate.Compiled schema ms) {s : Statement} (h : s.Extends f.statement) :
    ((s.select.scopes ops db).map fun σ => σ.cell f.anchor) =
      ((db (baseTable schema q.necessary)).filter fun r =>
        q.necessary.all (present db schema r)).map fun r => r schema.naming.itemIdColumn := by
  rw [(hf.selects hs hp h).scopes, List.map_map]
  refine List.map_congr_left fun r hr => ?_
  exact hf.cell_anchor (List.mem_of_mem_filter hr)

theorem Frame.Fits.items_eq_ok (hf : f.Fits ops db schema ms predicate q)
    (hdb : db.Keyed ops schema)
    (hselect : ∀ m ∈ q.select, m.Known schema ms) {aliases : Aliases AliasKey}
    (hframe : q.frame schema predicate aliases = .ok f) (dialect : Sql.Dialect) :
    ∃ s aliases', q.items schema dialect predicate aliases = .ok (s, aliases') ∧
      s.toStatement.Extends f.statement ∧ s.select.orderBy = itemOrder dialect q f.anchor f.order ∧
      JoinPlan.outputColumn f.anchor s.itemId ∈ s.select.outputs ∧
      s.presence.map Prod.fst = f.requested.map Prod.fst ∧
      (∀ e ∈ s.presence, ∃ n c, (e.1, n) ∈ f.requested ∧
        f.plan.tables.qualify ⟨n, schema.naming.itemIdColumn⟩ = .ok c ∧
        JoinPlan.outputColumn c e.2 ∈ s.select.outputs) ∧
      ∀ m ∈ q.select, ∃ a c, s.attributes.lookup m.index = some a ∧ f.plan.Finds m c ∧
        JoinPlan.outputColumn c a ∈ s.select.outputs := by
  obtain ⟨presenceColumns, presence, p₁, hpresence, htables₁, hcolumns₁, hfst, hmem⟩ :=
    outputPresence_eq_ok schema.naming.itemIdColumn f.requested
      (p := (f.plan.allot .itemId AliasKey.columnStem).2) fun e he => by
        obtain ⟨c, hc, -⟩ := hf.cell_presence hdb he
        exact ⟨c, hc⟩
  have hfinds : ∀ m c, p₁.Finds m c ↔ f.plan.Finds m c := by
    intro m c
    simp only [JoinPlan.Finds, JoinPlan.column?, htables₁, hcolumns₁]
    rfl
  obtain ⟨columns, attributes, p₂, hattributes, -, hnew⟩ :=
    JoinPlan.outputAttributes_eq_ok q.select [] (p := p₁) fun m hm =>
      ⟨_, (hfinds m _).mpr (hf.finds (hselect m hm) (hf.select m hm))⟩
  refine ⟨_, _, items_eq_ok_iff.mpr ⟨f, hframe, _, _, _, hpresence, _, _, _, hattributes, rfl, rfl⟩,
    ⟨rfl, rfl, rfl, rfl⟩, rfl, List.mem_cons_self, hfst, ?_, ?_⟩
  · intro e he
    obtain ⟨n, c, hn, hc, hout⟩ := hmem e he
    exact ⟨n, c, hn, hc, List.mem_cons_of_mem _ (List.mem_append_left _ hout)⟩
  · intro m hm
    obtain ⟨a, c, ha, hc, hout⟩ := hnew m hm rfl
    exact ⟨a, c, ha, (hfinds m c).mp hc, List.mem_cons_of_mem _ (List.mem_append_right _ hout)⟩

theorem mem_itemOrder (dialect : Sql.Dialect) (q : Primary) (anchor : Column)
    {order : List Sql.OrderKey} {k : Sql.OrderKey} (h : k ∈ order) :
    k ∈ itemOrder dialect q anchor order := by
  have hne : order.isEmpty = false := List.isEmpty_eq_false_iff_exists_mem.mpr ⟨k, h⟩
  simpa [itemOrder, hne] using h

theorem shows_items (h : q.Known schema ms predicate) (hdb : db.Keyed ops schema)
    (hs : schema.Proper) (dialect : Sql.Dialect) {aliases : Aliases AliasKey}
    (haliases : aliases.Sound) :
    ∃ f s aliases', q.frame schema predicate aliases = .ok f ∧
      q.items schema dialect predicate aliases = .ok (s, aliases') ∧
      q.Shows ops db schema predicate f s := by
  obtain ⟨f, hframe, hf⟩ := fits_frame h hdb hs haliases
  obtain ⟨s, aliases', hitems, hextends, horder, hitem, hfst, hpresence, hselect⟩ :=
    hf.items_eq_ok hdb h.select hframe dialect
  obtain ⟨hunique, hnull⟩ := keyed_baseTable hdb h.necessary
  have hitemsEq := hf.items_eq hs h.predicate hextends
  have hscopes := (hf.selects hs h.predicate hextends).scopes
  have hrow : ∀ σ ∈ s.select.scopes ops db, ∃ r ∈ db (baseTable schema q.necessary),
      σ = f.plan.tables.scope (records db schema r) := by
    intro σ hσ
    rw [hscopes] at hσ
    obtain ⟨r, hr, rfl⟩ := List.mem_map.mp hσ
    exact ⟨r, List.mem_of_mem_filter hr, rfl⟩
  refine ⟨f, s, aliases', hframe, hitems, ?_, ?_, ?_, hitem, ?_, ?_, hselect, ?_, ?_, ?_⟩
  · rw [hitemsEq]
    exact ((hunique.nodup hnull).sublist (List.filter_sublist.map _))
  · intro hnil
    rw [hitemsEq, hnil]
    simp [baseTable]
  · intro hne v
    rw [hitemsEq, List.mem_map, ← mem_rows_iff hdb hne]
    simp only [List.mem_filter, and_assoc]
  · intro a
    rw [hfst]
    exact hf.mem_requested a
  · intro e he
    obtain ⟨n, c, hn, hc, hout⟩ := hpresence e he
    obtain ⟨c', hc', hiff⟩ := hf.cell_presence hdb hn
    obtain rfl := Except.ok.inj (hc.symm.trans hc')
    refine ⟨c, hout, fun σ hσ => ?_⟩
    obtain ⟨r, hr, rfl⟩ := hrow σ hσ
    rw [hf.cell_anchor hr]
    exact hiff r
  · exact fun m hm => ⟨_, hf.finds (h.predicate.known hm) (hf.mentions m hm)⟩
  · intro e he hbounded
    refine ⟨_, hf.finds (h.sort e he hbounded) (hf.sort e he hbounded), ?_⟩
    rw [horder, hf.order]
    refine mem_itemOrder dialect q f.anchor (List.mem_map.mpr ⟨e, ?_, rfl⟩)
    simpa using ⟨he, hbounded⟩
  · intro m c hm hc σ hσ
    have hknown : m.Known schema ms := by
      rcases hm with hm | hm | ⟨hm, hbounded⟩
      · exact h.select m hm
      · exact h.predicate.known hm
      · obtain ⟨e, he, rfl⟩ := List.mem_map.mp hm
        exact h.sort e he hbounded
    obtain ⟨r, hr, rfl⟩ := hrow σ hσ
    rw [hf.cell_anchor hr]
    exact hf.cell_of_finds hknown hc hr

end

/-- The films 1, 2 and 4 with their titles and genres, of which film 4 has one twice. Item 3 is no
film. -/
def filmContents : Contents
  | "MEDIA_ITEMS" => [1, 2, 3, 4].map fun item column =>
    if column = "MEDIA_ITEM_ID" then .integer item else .null
  | "M_FILM" => [(1, "Alien"), (2, "Ordet"), (4, "Aliens")].map fun (item, title) column =>
    if column = "MEDIA_ITEM_ID" then .integer item
    else if column = "TITLE" then .text title
    else .null
  | "NM_FILM_GENRE" => [(1, 2), (1, 3), (2, 1), (4, 3), (4, 2), (4, 3)].map
    fun (item, genre) column =>
      if column = "MEDIA_ITEM_ID" then .integer item
      else if column = "VALUE_ID" then .integer genre
      else .null
  | "V_FILM_GENRE" => [(1, "drama"), (2, "horror"), (3, "science fiction")].map
    fun (id, genre) column =>
      if column = "VALUE_ID" then .integer id
      else if column = "VALUE" then .text genre
      else .null
  | _ => []

open Predicate (filmSchema) in
theorem keyed_filmContents : filmContents.Keyed .equality filmSchema := by
  have haspect : ∀ a ∈ filmSchema.aspects,
      ((filmContents a.table).map fun r => r filmSchema.naming.itemIdColumn).Nodup := by decide
  have hvalue : ∀ a ∈ filmSchema.aspects, ∀ x ∈ a.attributes, ∀ table ∈ x.storage.valueTable?,
      ((filmContents table).map fun r => r filmSchema.naming.valueIdColumn).Nodup := by decide
  exact {
    exact := fun _ _ _ _ => Sql.exact_equality _ _ _ _
    exact_item := fun _ _ _ _ => Sql.exact_equality _ _ _ _
    item := Sql.unique_of_nodup (by decide)
    item_ne_null := by decide
    aspect := fun a ha => Sql.unique_of_nodup (haspect a ha)
    aspect_ne_null := by decide
    value := fun a ha x hx table htable => Sql.unique_of_nodup (hvalue a ha x hx table htable) }

/-- A statement over the items has one row for each item that has the necessary aspects, and shows
the aspects and the stored values of the item. -/
theorem one_row_per_item {d : SchemaDefinition} {naming : Naming} {schema : Schema}
    (hschema : Schema.ofDefinition d naming = .ok schema) {options : Options}
    {filter : Option Filter} {ms₀ ms₁ ms : Mentions} {predicate : Predicate}
    (hfilter : Predicate.ofFilter? schema options filter ms₀ = .ok (predicate, ms₁))
    (hms : ms₁.Extends ms) (q : Primary)
    (hnecessary : ∀ a ∈ q.necessary, (schema.aspect? a).isSome)
    (hoptional : ∀ a ∈ q.optional, (schema.aspect? a).isSome)
    (hselect : ∀ m ∈ q.select, m.Known schema ms)
    (hsort : ∀ e ∈ q.sort, e.1.target.bounded → e.1.Known schema ms) (dialect : Sql.Dialect)
    {aliases : Aliases AliasKey} (haliases : aliases.Sound) {ops : Operators} {db : Contents}
    (hdb : db.Keyed ops schema) :
    ∃ f s aliases', q.frame schema predicate aliases = .ok f ∧
      q.items schema dialect predicate aliases = .ok (s, aliases') ∧
      q.Shows ops db schema predicate f s := by
  have hproper := Schema.proper_of_ofDefinition hschema
  have hcompiled := (Predicate.compiled_ofFilter? hproper hfilter).1.mono hms
  exact shows_items ⟨hnecessary, hoptional, hselect, hsort, hcompiled⟩ hdb hproper dialect haliases

open Predicate (films filmSchema filmFilter) in
/-- The item 3 is no film, and no row is shown for it. -/
theorem one_row_per_item_films :
    let title : Mention := ⟨0, ⟨"film", "title", .string, .inline "TITLE"⟩⟩
    let q : Primary :=
      { necessary := ["film"], select := [title], sort := [(title, .descending)], limit := some 3 }
    Schema.ofDefinition films {} = .ok filmSchema ∧
      ∃ p ms, Predicate.ofFilter? filmSchema {} (some filmFilter) {} = .ok (p, ms) ∧
        ∃ f s aliases, q.frame filmSchema p {} = .ok f ∧
          q.items filmSchema .tsql p {} = .ok (s, aliases) ∧
            q.Shows .equality filmContents filmSchema p f s ∧
            ((s.select.scopes .equality filmContents).map fun σ => σ.cell f.anchor) =
              [.integer 1, .integer 2, .integer 4] := by
  intro title q
  have hschema : Schema.ofDefinition films {} = .ok filmSchema := rfl
  obtain ⟨⟨p, ms⟩, hp, htitle⟩ : ∃ r,
      Predicate.ofFilter? filmSchema {} (some filmFilter) {} = .ok r ∧ r.2.get? 0 = some title :=
    ⟨_, rfl, rfl⟩
  have hknown : title.Known filmSchema ms := ⟨htitle, rfl, rfl⟩
  have hfilm : ∀ a ∈ ["film"], (filmSchema.aspect? a).isSome := by decide
  obtain ⟨f, s, aliases, hf, hs, hshows⟩ : ∃ f s aliases, q.frame filmSchema p {} = .ok f ∧
      q.items filmSchema .tsql p {} = .ok (s, aliases) ∧
        q.Shows .equality filmContents filmSchema p f s := by
    refine one_row_per_item hschema hp (.refl ms) q hfilm ?_ ?_ ?_ .tsql Aliases.sound_empty
      keyed_filmContents
    · simp [q]
    · simpa [q] using hknown
    · simpa [q] using fun _ => hknown
  refine ⟨hschema, p, ms, hp, f, s, aliases, hf, hs, hshows, ?_⟩
  cases hp
  cases hf
  cases hs
  rfl

end Primary

end AspectQuery
