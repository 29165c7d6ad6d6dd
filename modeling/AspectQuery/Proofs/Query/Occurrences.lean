import AspectQuery.Proofs.Query.Requested
import AspectQuery.Proofs.Query.Values
/-!
# The items that have a value

The statements of a value query look at rows in which an item stands beside a value. Of a database
no more is assumed for them than that it tells items and shared values apart: the table of all items
is not looked at.
-/

set_option autoImplicit false

namespace AspectQuery

open Sql (Contents Operators Record Scope)

/-- The item has a value of the attribute: the one that is stored, which may be null, or one in a
row of the collection. -/
def Attribute.Holds (target : Attribute) (db : Contents) (schema : Schema) (id v : Value) : Prop :=
  if target.bounded then
    HasAspect db schema id target.aspect ∧ stored db schema id target = v
  else ∃ r ∈ db target.collectionTable, r schema.naming.itemIdColumn = id ∧
    target.rowValue? db schema.naming r = some v

/-- What is assumed of the contents of a database where the table of all items is not looked at. -/
structure Sql.Contents.Identified (ops : Operators) (db : Contents) (schema : Schema) : Prop where
  exact : ∀ table column v, schema.Seeks db table column v → db.Exact ops table column v
  aspect : ∀ a ∈ schema.aspects, db.Unique a.table schema.naming.itemIdColumn
  aspect_ne_null : ∀ a ∈ schema.aspects, ∀ r ∈ db a.table, r schema.naming.itemIdColumn ≠ .null
  collection_ne_null : ∀ a ∈ schema.aspects, ∀ x ∈ a.attributes, x.bounded = false →
    ∀ r ∈ db x.collectionTable, r schema.naming.itemIdColumn ≠ .null
  value : ∀ a ∈ schema.aspects, ∀ x ∈ a.attributes, ∀ table ∈ x.storage.valueTable?,
    db.Unique table schema.naming.valueIdColumn

namespace Schema

/-- The schema with another table of all items. -/
def withItemTable (s : Schema) (table : String) : Schema :=
  { s with naming := { s.naming with itemTable := table } }

variable {s : Schema} {table : String}

theorem Proper.withItemTable (h : s.Proper) (htable : Sql.isIdentifier table) :
    (s.withItemTable table).Proper :=
  ⟨{ h.naming with itemTable := htable }, h.aspects, h.nodup⟩

end Schema

/-- The main table of an aspect does for the table of all items. -/
theorem Sql.Contents.Identified.keyed {ops : Operators} {db : Contents} {schema : Schema}
    (h : db.Identified ops schema) {a : Aspect} (ha : a ∈ schema.aspects) :
    db.Keyed ops (schema.withItemTable a.table) where
  exact table column v hseeks := by
    refine h.exact table column v ?_
    cases hseeks with
    | aspect ha hties hr =>
      refine .aspect ha ?_ hr
      cases hties with
      | aspect hb => exact .aspect hb
      | collection hb hx hbounded => exact .collection hb hx hbounded
    | shared ha hx hstorage hr => exact .shared ha hx hstorage hr
    | collected ha hx hstorage hr => exact .collected ha hx hstorage hr
  exact_item b hb r hr := h.exact _ _ _ (.aspect hb (.aspect ha) hr)
  item := h.aspect a ha
  item_ne_null := h.aspect_ne_null a ha
  aspect := h.aspect
  aspect_ne_null := h.aspect_ne_null
  value := h.value

section

variable (s : Schema) (table : String)

theorem Primary.resolveSort_withItemTable (anchor : ColumnRef) (sort : List (Mention × Direction))
    (p : JoinPlan) :
    resolveSort (s.withItemTable table) anchor sort p = resolveSort s anchor sort p := by
  induction sort generalizing p with
  | nil => rfl
  | cons e rest ih =>
    simp only [resolveSort, ih]
    rfl

/-- A statement that starts at the table of an aspect does not look at the table of all items. -/
theorem Primary.frame_withItemTable {q : Primary} (h : q.necessary ≠ []) (predicate : Predicate)
    (aliases : Aliases AliasKey) :
    q.frame (s.withItemTable table) predicate aliases = q.frame s predicate aliases := by
  obtain ⟨_ | ⟨first, rest⟩, optional, select, sort, limit, offset⟩ := q
  · exact absurd rfl h
  · simp only [frame, resolveSort_withItemTable]
    rfl

end

section

variable {s : Schema} {ms : Mentions} (table : String)

theorem Mention.Known.withItemTable {m : Mention} (h : m.Known s ms) :
    m.Known (s.withItemTable table) ms := ⟨h.get?, h.lookup, h.bounded⟩

theorem Predicate.Compiled.withItemTable {p : Predicate} (h : p.Compiled s ms) :
    p.Compiled (s.withItemTable table) ms := by
  intro c hc
  exact ⟨(h c hc).proper, fun m hm => ((h c hc).known m hm).withItemTable table⟩

end

namespace ValueQuery

/-- The query over the schema with another table of all items. -/
def withItemTable (q : ValueQuery) (table : String) : ValueQuery :=
  { q with schema := q.schema.withItemTable table }

theorem Compiled.withItemTable {q : ValueQuery} (h : q.Compiled q.schema) (table : String) :
    (q.withItemTable table).Compiled (q.withItemTable table).schema := by
  refine ⟨rfl, fun hbounded => ?_, fun hbounded => ?_⟩
  · obtain ⟨ms, hknown⟩ := h.primary hbounded
    exact ⟨ms, hknown.necessary, hknown.optional,
      fun m hm => (hknown.select m hm).withItemTable table,
      fun e he hsort => (hknown.sort e he hsort).withItemTable table,
      hknown.predicate.withItemTable table⟩
  · obtain ⟨ms, hknown⟩ := h.collection hbounded
    exact ⟨ms, hknown.lookup, hknown.bounded, hknown.necessary,
      hknown.predicate.withItemTable table⟩

/-- The statements do not look at the table of all items, if the aspect of a bounded attribute is
necessary. -/
theorem statements_withItemTable {q : ValueQuery}
    (h : q.target.bounded → q.target.aspect ∈ q.necessary) (table : String) :
    (q.withItemTable table).distinctStatement = q.distinctStatement ∧
      (q.withItemTable table).groupedStatement = q.groupedStatement := by
  cases hbounded : q.target.bounded with
  | true =>
    have hbounded' : (q.withItemTable table).target.bounded = true := hbounded
    have hframe := Primary.frame_withItemTable q.schema table (q := q.primary)
      (List.ne_nil_of_mem (h hbounded)) q.predicate {}
    have hdistinct : q.primary.distinct (q.schema.withItemTable table) q.predicate {} =
        q.primary.distinct q.schema q.predicate {} := by
      rw [Primary.distinct, hframe, Primary.distinct]
    have hgrouped : q.primary.grouped (q.schema.withItemTable table) q.predicate {} =
        q.primary.grouped q.schema q.predicate {} := by
      rw [Primary.grouped, hframe, Primary.grouped]
    rw [distinctStatement_of_bounded hbounded, distinctStatement_of_bounded hbounded',
      groupedStatement_of_bounded hbounded, groupedStatement_of_bounded hbounded', ← hdistinct,
      ← hgrouped]
    exact ⟨rfl, rfl⟩
  | false =>
    have hbounded' : (q.withItemTable table).target.bounded = false := hbounded
    rw [distinctStatement_of_collection hbounded, distinctStatement_of_collection hbounded',
      groupedStatement_of_collection hbounded, groupedStatement_of_collection hbounded']
    exact ⟨rfl, rfl⟩

/-- What a compiled query is about. -/
structure Requested (schema : Schema) (path : AttributePath) (necessary : List AspectId)
    (filter : Option Filter) (q : ValueQuery) : Prop where
  lookup : schema.lookup path = .ok q.target
  necessary : ∀ a, a ∈ q.necessary ↔
    a ∈ necessary ∨ q.target.bounded ∧ a = q.target.aspect
  filter : ∀ (ops : Operators) (db : Contents) (id : Value),
    q.predicate.admits ops db schema id ↔
      Filter.truth? ops db schema ⟨id, stored db schema id⟩ filter = .holds

theorem requested_of_compile {schema : Schema} {options : Options} {path : AttributePath}
    {necessary : List AspectId} {filter : Option Filter} {q : ValueQuery}
    (h : compile schema options path necessary filter = .ok q) :
    q.Requested schema path necessary filter := by
  obtain ⟨known, hknown, h⟩ := compile_eq_ok_iff.mp h
  refine ⟨Schema.find_eq_ok.mp h.find, fun a => ?_, fun ops db id => ?_⟩
  · rw [h.necessary, ← Schema.mem_requireAll hknown]
    split
    · rename_i hbounded
      simp [mem_addOnce, hbounded]
    · rename_i hbounded
      simp [hbounded]
  · have htruth : ∀ item : ItemView, q.predicate.truth ops db item.id
        (fun m => item.bounded m.target) = Filter.truth? ops db schema item filter :=
      fun _ => Predicate.truth_ofFilter? h.predicate
    rw [← htruth]
    exact decide_eq_true_iff

/-- The item has all aspects, meets the filter and has the value. -/
structure Counts (ops : Operators) (db : Contents) (schema : Schema) (target : Attribute)
    (necessary : List AspectId) (filter : Option Filter) (v id : Value) : Prop where
  aspects : ∀ a ∈ necessary, HasAspect db schema id a
  filter : Filter.truth? ops db schema ⟨id, stored db schema id⟩ filter = .holds
  holds : target.Holds db schema id v

/-- The item and the value of each row that the statements look at and that meets the predicate. -/
def occurrences (ops : Operators) (db : Contents) (q : ValueQuery) : List (Value × Value) :=
  (((db q.base).filter (q.keeps db)).filter fun r =>
    q.predicate.admits ops db q.schema (r q.schema.naming.itemIdColumn)).map fun r =>
      (r q.schema.naming.itemIdColumn, q.valueOf db r)

section

variable {ops : Operators} {db : Contents} {q : ValueQuery}

theorem all_present_iff (hdb : db.Keyed ops q.schema) (r : Record) :
    q.necessary.all (present db q.schema r) ↔
      ∀ a ∈ q.necessary, HasAspect db q.schema (r q.schema.naming.itemIdColumn) a := by
  rw [List.all_eq_true]
  exact forall₂_congr fun a _ => isSome_mainRow?_iff hdb

theorem mem_occurrences (hdb : db.Keyed ops q.schema)
    (hnecessary : q.target.bounded → q.target.aspect ∈ q.necessary) {id v : Value} :
    (id, v) ∈ q.occurrences ops db ↔ (∀ a ∈ q.necessary, HasAspect db q.schema id a) ∧
      q.predicate.admits ops db q.schema id ∧ q.target.Holds db q.schema id v := by
  simp only [occurrences, List.mem_map, List.mem_filter, Prod.mk.injEq]
  cases hbounded : q.target.bounded with
  | true =>
    have hmem := hnecessary hbounded
    have hrows := Primary.mem_rows_iff hdb (List.ne_nil_of_mem hmem) id
    simp only [base, keeps, valueOf, Attribute.Holds, hbounded, if_true]
    constructor
    · rintro ⟨r, ⟨⟨hr, hall⟩, hadmits⟩, rfl, rfl⟩
      have haspects := hrows.mp ⟨r, hr, hall, rfl⟩
      exact ⟨haspects, hadmits, haspects _ hmem, rfl⟩
    · rintro ⟨haspects, hadmits, -, rfl⟩
      obtain ⟨r, hr, hall, rfl⟩ := hrows.mpr haspects
      exact ⟨r, ⟨⟨hr, hall⟩, hadmits⟩, rfl, rfl⟩
  | false =>
    simp only [base, keeps, valueOf, Attribute.Holds, hbounded, Collection.keeps,
      Bool.false_eq_true, if_false, Bool.and_eq_true, all_present_iff hdb]
    constructor
    · rintro ⟨r, ⟨⟨hr, hvalue, haspects⟩, hadmits⟩, rfl, rfl⟩
      obtain ⟨w, hw⟩ := Option.isSome_iff_exists.mp hvalue
      exact ⟨haspects, hadmits, r, hr, rfl, by rw [hw, Option.getD_some]⟩
    · rintro ⟨haspects, hadmits, r, hr, rfl, hvalue⟩
      exact ⟨r, ⟨⟨hr, Option.isSome_of_eq_some hvalue, haspects⟩, hadmits⟩, rfl,
        by rw [hvalue, Option.getD_some]⟩

/-- The rows of FROM and JOIN that meet the condition show the occurrences. -/
theorem Frame.Fits.rows? {ms : Mentions} {f : Frame} (hs : q.schema.Proper)
    (hf : f.Fits ops db ms q) {s : Statement} (h : s.Extends f.statement) :
    ∃ σs : List Scope, s.rows? ops db = some σs ∧
      σs.map (fun σ => (σ.cell f.anchor, σ.cell f.value)) = q.occurrences ops db := by
  obtain ⟨anchor, hfits, hanchor⟩ := hf.plan
  have hselects := hfits.selects hs hanchor hf.predicate hf.mentions hf.statement h
  refine ⟨_, hselects.rows, ?_⟩
  have hcell : ∀ r ∈ (db q.base).filter (q.keeps db),
      (f.plan.tables.scope (records db q.schema r)).cell f.anchor =
        r q.schema.naming.itemIdColumn :=
    fun r hr => hfits.cell_anchor hanchor (List.mem_of_mem_filter hr)
  rw [List.filter_map, List.map_map, occurrences]
  simp only [Function.comp_def]
  rw [List.filter_congr fun r hr => by rw [hcell r hr]]
  refine List.map_congr_left fun r hr => ?_
  have hr' := List.mem_of_mem_filter hr
  rw [hcell r hr', hf.cell r (List.mem_of_mem_filter hr')]

end

end ValueQuery

end AspectQuery
