import AspectQuery.Proofs.Schema.Proper
import AspectQuery.Proofs.Scope.Rows
/-!
# Where the values of items are stored

The row of an item in the main table of an aspect, the value of an attribute that stands there or in
a table of shared values, and the record that a statement needs for each purpose. Tables have at
most one row for an item and at most one for a shared value.
-/

set_option autoImplicit false

namespace AspectQuery

open Sql (Contents Operators Record)

def Storage.valueTable? : Storage → Option String
  | .manyToOne _ valueTable => some valueTable
  | .manyToMany _ valueTable => some valueTable
  | _ => none

/-- The table that ties items to the values of a collection. -/
def Attribute.collectionTable (target : Attribute) : String :=
  match target.storage with
  | .oneToMany table => table
  | .manyToMany junction _ => junction
  | _ => ""

namespace Schema

/-- The tables for the aspects of items and for their collections. -/
inductive Ties (schema : Schema) : String → Prop
  | aspect {a : Aspect} (ha : a ∈ schema.aspects) : schema.Ties a.table
  | collection {a : Aspect} {x : Attribute} (ha : a ∈ schema.aspects) (hx : x ∈ a.attributes)
    (hbounded : x.bounded = false) : schema.Ties x.collectionTable

/-- The value is looked for in the column of a table where the tables of the schema are joined. -/
inductive Seeks (schema : Schema) (db : Contents) : String → String → Value → Prop
  | aspect {a : Aspect} {table : String} {r : Record} (ha : a ∈ schema.aspects)
    (htable : schema.Ties table) (hr : r ∈ db table) :
    schema.Seeks db a.table schema.naming.itemIdColumn (r schema.naming.itemIdColumn)
  | shared {a : Aspect} {x : Attribute} {foreignKey valueTable : String} {r : Record}
    (ha : a ∈ schema.aspects) (hx : x ∈ a.attributes)
    (hstorage : x.storage = .manyToOne foreignKey valueTable) (hr : r ∈ db a.table ∨ r = .null) :
    schema.Seeks db valueTable schema.naming.valueIdColumn (r foreignKey)
  | collected {a : Aspect} {x : Attribute} {junction valueTable : String} {r : Record}
    (ha : a ∈ schema.aspects) (hx : x ∈ a.attributes)
    (hstorage : x.storage = .manyToMany junction valueTable) (hr : r ∈ db junction) :
    schema.Seeks db valueTable schema.naming.valueIdColumn (r schema.naming.valueIdColumn)

end Schema

/-- What is assumed of the contents of a database: items and shared values are told apart by their
ids, and where the tables of the schema are joined, `=` holds between ids that are the same and not
null, and only there. -/
structure Sql.Contents.Keyed (ops : Operators) (db : Contents) (schema : Schema) : Prop where
  exact : ∀ table column v, schema.Seeks db table column v → db.Exact ops table column v
  exact_item : ∀ a ∈ schema.aspects, ∀ r ∈ db schema.naming.itemTable,
    db.Exact ops a.table schema.naming.itemIdColumn (r schema.naming.itemIdColumn)
  item : db.Unique schema.naming.itemTable schema.naming.itemIdColumn
  item_ne_null : ∀ r ∈ db schema.naming.itemTable, r schema.naming.itemIdColumn ≠ .null
  aspect : ∀ a ∈ schema.aspects, db.Unique a.table schema.naming.itemIdColumn
  aspect_ne_null : ∀ a ∈ schema.aspects, ∀ r ∈ db a.table, r schema.naming.itemIdColumn ≠ .null
  value : ∀ a ∈ schema.aspects, ∀ x ∈ a.attributes, ∀ table ∈ x.storage.valueTable?,
    db.Unique table schema.naming.valueIdColumn

/-- One row, which stands in every table. -/
theorem keyed_singleton (schema : Schema) {r : Record}
    (h : r schema.naming.itemIdColumn ≠ .null) :
    Contents.Keyed .equality (fun _ => [r]) schema := by
  have hunique : ∀ table column, Contents.Unique (fun _ => [r]) table column := by
    intro _ _ _ _
    exact List.length_filter_le _ [r]
  refine ⟨fun _ _ _ _ => Sql.exact_equality _ _ _ _, fun _ _ _ _ => Sql.exact_equality _ _ _ _,
    hunique _ _, ?_, fun _ _ => hunique _ _, ?_, ?_⟩
  · intro s hs
    rw [List.mem_singleton.mp hs]
    exact h
  · intro _ _ s hs
    rw [List.mem_singleton.mp hs]
    exact h
  · exact fun _ _ _ _ _ _ => hunique _ _

section

variable (db : Contents) (schema : Schema)

/-- The item has a row in the main table of the aspect. -/
def HasAspect (id : Value) (aspect : AspectId) : Prop :=
  ∃ a, schema.aspect? aspect = some a ∧ ∃ r ∈ db a.table, r schema.naming.itemIdColumn = id

def mainRow? (id : Value) (aspect : AspectId) : Option Record :=
  (schema.aspect? aspect).bind fun a => db.row? a.table schema.naming.itemIdColumn id

/-- The value of an attribute with at most one value; null for an item without the aspect or without
the shared value. -/
def stored (id : Value) (target : Attribute) : Value :=
  let main := (mainRow? db schema id target.aspect).getD .null
  match target.storage with
  | .inline column => main column
  | .manyToOne foreignKey valueTable =>
    (db.row? valueTable schema.naming.valueIdColumn (main foreignKey)).getD .null
      schema.naming.valueColumn
  | _ => .null

/-- The record for a purpose, next to a row of the base. -/
def records (r : Record) : Purpose → Record
  | .items => r
  | .aspect id => (mainRow? db schema (r schema.naming.itemIdColumn) id).getD .null
  | .collection _ => r
  | .sharedValues path =>
    match schema.lookup path with
    | .ok ⟨aspect, _, _, .manyToOne foreignKey valueTable⟩ =>
      (db.row? valueTable schema.naming.valueIdColumn
        ((mainRow? db schema (r schema.naming.itemIdColumn) aspect).getD .null foreignKey)).getD
          .null
    | _ => .null
  | .collectionValues path =>
    match schema.lookup path with
    | .ok ⟨_, _, _, .manyToMany _ valueTable⟩ =>
      (db.row? valueTable schema.naming.valueIdColumn (r schema.naming.valueIdColumn)).getD .null
    | _ => .null

end

variable {ops : Operators} {db : Contents} {schema : Schema}

theorem mainRow?_eq_some {id : Value} {aspect : AspectId} {r : Record}
    (h : mainRow? db schema id aspect = some r) :
    ∃ a, schema.aspect? aspect = some a ∧ r ∈ db a.table ∧ r schema.naming.itemIdColumn = id ∧
      id ≠ .null := by
  obtain ⟨a, ha, hr⟩ := Option.bind_eq_some_iff.mp h
  obtain ⟨hmem, hid, hnull⟩ := Sql.row?_eq_some hr
  exact ⟨a, ha, hmem, hid, hnull⟩

/-- The row of an item is found by the id of the item. -/
theorem mainRow?_of_mem (hdb : db.Keyed ops schema) {aspect : AspectId} {a : Aspect}
    (ha : schema.aspect? aspect = some a) {r : Record} (hr : r ∈ db a.table) :
    mainRow? db schema (r schema.naming.itemIdColumn) aspect = some r := by
  obtain ⟨hmem, -⟩ := Schema.aspect?_eq_some ha
  rw [mainRow?, ha, Option.bind_some]
  exact Sql.row?_of_mem (hdb.aspect a hmem) hr (hdb.aspect_ne_null a hmem r hr)

theorem isSome_mainRow?_iff (hdb : db.Keyed ops schema) {id : Value} {aspect : AspectId} :
    (mainRow? db schema id aspect).isSome ↔ HasAspect db schema id aspect := by
  constructor
  · intro h
    obtain ⟨r, hr⟩ := Option.isSome_iff_exists.mp h
    obtain ⟨a, ha, hmem, hid, -⟩ := mainRow?_eq_some hr
    exact ⟨a, ha, r, hmem, hid⟩
  · rintro ⟨a, ha, r, hr, rfl⟩
    rw [mainRow?_of_mem hdb ha hr]
    rfl

/-- The row of an aspect has the id of its item, and the record in its place has none. -/
theorem records_aspect_itemId (hdb : db.Keyed ops schema) (r : Record) (aspect : AspectId) :
    records db schema r (.aspect aspect) schema.naming.itemIdColumn ≠ .null ↔
      HasAspect db schema (r schema.naming.itemIdColumn) aspect := by
  rw [← isSome_mainRow?_iff hdb, records]
  cases h : mainRow? db schema (r schema.naming.itemIdColumn) aspect with
  | none => simp [Record.null]
  | some s =>
    obtain ⟨a, ha, hmem, hid, hnull⟩ := mainRow?_eq_some h
    simp [hid, hnull]

/-- The row of an aspect is found by the id of its item in the table of all items or in another
table that ties items to what they have. -/
theorem Sql.Contents.Keyed.exact_base (hdb : db.Keyed ops schema) {base : String}
    (hbase : base = schema.naming.itemTable ∨ schema.Ties base) {r : Record} (hr : r ∈ db base)
    {a : Aspect} (ha : a ∈ schema.aspects) :
    db.Exact ops a.table schema.naming.itemIdColumn (r schema.naming.itemIdColumn) := by
  rcases hbase with rfl | hties
  · exact hdb.exact_item a ha r hr
  · exact hdb.exact _ _ _ (.aspect ha hties hr)

/-- A shared value is found by what stands in the row of an aspect, or by nothing if there is no
such row. -/
theorem Sql.Contents.Keyed.exact_shared (hdb : db.Keyed ops schema) (hs : schema.Proper)
    {target : Attribute} (h : schema.lookup target.path = .ok target)
    {foreignKey valueTable : String} (hstorage : target.storage = .manyToOne foreignKey valueTable)
    (id : Value) : db.Exact ops valueTable schema.naming.valueIdColumn
      ((mainRow? db schema id target.aspect).getD .null foreignKey) := by
  obtain ⟨a, ha, haid, hx, -⟩ := Schema.lookup_eq_ok h
  have haspect : schema.aspect? target.path.aspect = some a := haid ▸ Schema.aspect?_id hs ha
  refine hdb.exact _ _ _ (.shared ha hx hstorage ?_)
  cases hmain : mainRow? db schema id target.aspect with
  | none => exact .inr rfl
  | some r =>
    obtain ⟨b, hb, hmem, -⟩ := mainRow?_eq_some hmain
    obtain rfl := Option.some.inj (haspect.symm.trans hb)
    exact .inl hmem

theorem Sql.Contents.Keyed.exact_collected (hdb : db.Keyed ops schema) {path : AttributePath}
    {target : Attribute} (h : schema.lookup path = .ok target) {junction valueTable : String}
    (hstorage : target.storage = .manyToMany junction valueTable) {r : Record}
    (hr : r ∈ db junction) : db.Exact ops valueTable schema.naming.valueIdColumn
      (r schema.naming.valueIdColumn) := by
  obtain ⟨a, ha, -, hx, -⟩ := Schema.lookup_eq_ok h
  exact hdb.exact _ _ _ (.collected ha hx hstorage hr)

theorem Schema.ties_collection {path : AttributePath} {target : Attribute}
    (h : schema.lookup path = .ok target) (hbounded : target.bounded = false) :
    schema.Ties target.collectionTable := by
  obtain ⟨a, ha, -, hx, -⟩ := Schema.lookup_eq_ok h
  exact .collection ha hx hbounded

theorem Sql.Contents.Keyed.value_of_lookup (hdb : db.Keyed ops schema) {path : AttributePath}
    {target : Attribute} (h : schema.lookup path = .ok target) {table : String}
    (htable : target.storage.valueTable? = some table) :
    db.Unique table schema.naming.valueIdColumn := by
  obtain ⟨a, ha, -, hx, -⟩ := Schema.lookup_eq_ok h
  exact hdb.value a ha target hx table htable

theorem records_inline (r : Record) {target : Attribute} {column : String}
    (h : target.storage = .inline column) :
    records db schema r (.aspect target.aspect) column =
      stored db schema (r schema.naming.itemIdColumn) target := by
  simp only [records, stored, h]

theorem records_sharedValues (r : Record) {target : Attribute} {foreignKey valueTable : String}
    (hlookup : schema.lookup target.path = .ok target)
    (h : target.storage = .manyToOne foreignKey valueTable) :
    records db schema r (.sharedValues target.path) =
      (db.row? valueTable schema.naming.valueIdColumn
        (records db schema r (.aspect target.aspect) foreignKey)).getD .null := by
  obtain ⟨aspect, name, valueType, storage⟩ := target
  obtain rfl : storage = .manyToOne foreignKey valueTable := h
  simp only [records, hlookup]

theorem records_manyToOne (r : Record) {target : Attribute} {foreignKey valueTable : String}
    (hlookup : schema.lookup target.path = .ok target)
    (h : target.storage = .manyToOne foreignKey valueTable) :
    records db schema r (.sharedValues target.path) schema.naming.valueColumn =
      stored db schema (r schema.naming.itemIdColumn) target := by
  rw [records_sharedValues r hlookup h]
  simp only [records, stored, h]

theorem records_collectionValues (r : Record) {target : Attribute} {junction valueTable : String}
    (hlookup : schema.lookup target.path = .ok target)
    (h : target.storage = .manyToMany junction valueTable) :
    records db schema r (.collectionValues target.path) =
      (db.row? valueTable schema.naming.valueIdColumn
        (r schema.naming.valueIdColumn)).getD .null := by
  obtain ⟨aspect, name, valueType, storage⟩ := target
  obtain rfl : storage = .manyToMany junction valueTable := h
  simp only [records, hlookup]

end AspectQuery
