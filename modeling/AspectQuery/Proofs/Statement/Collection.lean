import AspectQuery.Proofs.Statement.Aspects
import AspectQuery.Proofs.Statement.Rows
import AspectQuery.Statement.Collection
/-!
# The rows of collections

The statement of a collection has the rows of the table that ties items to values, each of them
once. A row is left out where its value is not found, where its item has not all necessary aspects,
or where the predicate does not hold for its item, but never because of other tables.
-/

set_option autoImplicit false

namespace AspectQuery

open Sql (Column Contents Operators Record Scope isIdentifier)

namespace Attribute

/-- The value that a row of the table of a collection stands for; none where a shared value is not
found. -/
def rowValue? (target : Attribute) (db : Contents) (naming : Naming) (r : Record) : Option Value :=
  match target.storage with
  | .oneToMany _ => some (r naming.valueColumn)
  | .manyToMany _ values =>
    (db.row? values naming.valueIdColumn (r naming.valueIdColumn)).map fun s => s naming.valueColumn
  | _ => none

end Attribute

namespace Collection

/-- The values of every item. -/
def Frame.pairs (f : Frame) (orderBy : List Sql.OrderKey) : Sql.Select :=
  { f.statement.select with
    outputs := [
      JoinPlan.outputColumn f.anchor (f.plan.allot .itemId AliasKey.columnStem).1,
      JoinPlan.outputColumn f.value
        ((f.plan.allot .itemId AliasKey.columnStem).2.allot .value AliasKey.columnStem).1]
    orderBy }

section

variable {schema : Schema} {predicate : Predicate} {target : Attribute} {necessary : List AspectId}
  {f : Frame} {aliases aliases' : Aliases AliasKey}

/-- The plan of a frame grows from the rows of values by the necessary aspects and the attributes of
the predicate. -/
theorem frame_eq_ok_iff : frame schema predicate target necessary aliases = .ok f ↔
    ∃ value joined p₀ p₁, addRows schema.naming target { aliases } = .ok (f.base, value, p₀) ∧
      p₀.joinAspects schema .inner ⟨f.base, schema.naming.itemIdColumn⟩ [] necessary =
        .ok (joined, p₁) ∧
      p₁.resolveAll schema .leftOuter ⟨f.base, schema.naming.itemIdColumn⟩ predicate.mentions =
        .ok f.plan ∧
      f.plan.tables.qualify ⟨f.base, schema.naming.itemIdColumn⟩ = .ok f.anchor ∧
      f.plan.tables.qualify value = .ok f.value ∧
      f.plan.statement f.anchor predicate = .ok f.statement := by
  simp only [frame, bind_eq_ok, pure_eq_ok, Prod.exists]
  constructor
  · rintro ⟨base, value, p₀, hrows, joined, p₁, hjoin, p₂, hresolve, anchor, hanchor, column,
      hvalue, t, hstatement, rfl⟩
    exact ⟨value, joined, p₀, p₁, hrows, hjoin, hresolve, hanchor, hvalue, hstatement⟩
  · rintro ⟨value, joined, p₀, p₁, hrows, hjoin, hresolve, hanchor, hvalue, hstatement⟩
    exact ⟨_, value, p₀, hrows, joined, p₁, hjoin, _, hresolve, _, hanchor, _, hvalue, _,
      hstatement, rfl⟩

theorem correlated_eq_ok_iff {s : CorrelatedStatement} :
    correlated schema predicate target necessary aliases = .ok (s, aliases') ↔
    ∃ f, frame schema predicate target necessary aliases = .ok f ∧
    ∃ orderBy, valueOrder schema.naming f = .ok orderBy ∧
      ⟨⟨f.pairs orderBy, f.statement.params⟩, (f.plan.allot .itemId AliasKey.columnStem).1,
        ((f.plan.allot .itemId AliasKey.columnStem).2.allot .value AliasKey.columnStem).1⟩ = s ∧
      ((f.plan.allot .itemId AliasKey.columnStem).2.allot .value AliasKey.columnStem).2.aliases =
        aliases' := by
  simp only [correlated, bind_eq_ok, pure_eq_ok, Prod.mk.injEq]
  rfl

end

section

variable {ops : Operators} {db : Contents} {schema : Schema} {ms : Mentions} {target : Attribute}
  {necessary : List AspectId} {predicate : Predicate} {p : JoinPlan}

/-- A plan over the rows of a collection, which finds the value of each of them in a column. -/
structure RowsFit (ops : Operators) (db : Contents) (schema : Schema) (ms : Mentions)
    (target : Attribute) (n : Nat) (c : ColumnRef) (p : JoinPlan) : Prop where
  fits : p.Fits ops db schema ms target.collectionTable ⟨n, schema.naming.itemIdColumn⟩
    fun r => (target.rowValue? db schema.naming r).isSome
  aspect : ∀ i ∈ p.tables.instances, ∀ a, i.purpose ≠ .aspect a
  value : ∃ i ∈ p.tables.instances, i.id = c.table ∧ ∀ r,
    records db schema r i.purpose c.column = (target.rowValue? db schema.naming r).getD .null

theorem rowsFit_oneToMany (ops : Operators) (db : Contents) (ms : Mentions)
    (hlookup : schema.lookup target.path = .ok target) {table : String}
    (hstorage : target.storage = .oneToMany table) (hplain : isIdentifier table)
    {aliases : Aliases AliasKey} (haliases : aliases.Sound) :
    ∃ n c p, addRows schema.naming target { aliases } = .ok (n, c, p) ∧
      RowsFit ops db schema ms target n c p := by
  have hbase : ∀ r ∈ db table, records db schema r (.collection target.path) = r := fun _ _ => rfl
  have hties : schema.Ties table := by
    have h := Schema.ties_collection hlookup
      (Attribute.bounded_eq_false_iff.mpr (.inl ⟨table, hstorage⟩))
    rwa [Attribute.collectionTable, hstorage] at h
  obtain ⟨hfits, honly, ⟨i, hi, hid, hpurpose⟩, -⟩ :=
    JoinPlan.fits_addBase ops ms haliases hplain (.inr hties) hbase
  refine ⟨_, _, _, by simp only [addRows, hstorage]; rfl, ?_, ?_, i, hi, hid, fun r => ?_⟩
  · simp only [Attribute.collectionTable, Attribute.rowValue?, hstorage]
    exact hfits
  · intro j hj a
    simp [(honly j hj).2]
  · simp only [Attribute.rowValue?, hstorage, hpurpose]
    rfl

theorem rowsFit_manyToMany (ms : Mentions) (hdb : db.Keyed ops schema) (hs : schema.Proper)
    (hlookup : schema.lookup target.path = .ok target) {junction values : String}
    (hstorage : target.storage = .manyToMany junction values)
    (hplain : isIdentifier junction ∧ isIdentifier values)
    {aliases : Aliases AliasKey} (haliases : aliases.Sound) :
    ∃ n c p, addRows schema.naming target { aliases } = .ok (n, c, p) ∧
      RowsFit ops db schema ms target n c p := by
  have hbase : ∀ r ∈ db junction, records db schema r (.collection target.path) = r :=
    fun _ _ => rfl
  have hties : schema.Ties junction := by
    have h := Schema.ties_collection hlookup
      (Attribute.bounded_eq_false_iff.mpr (.inr ⟨junction, values, hstorage⟩))
    rwa [Attribute.collectionTable, hstorage] at h
  obtain ⟨hfits, honly, ⟨i, hi, hid, hpurpose⟩, -⟩ :=
    JoinPlan.fits_addBase ops ms haliases hplain.1 (.inr hties) hbase
  have hunique := hdb.value_of_lookup hlookup
    (show target.storage.valueTable? = some values by rw [hstorage]; rfl)
  have hexact : ∀ r ∈ db junction, db.Exact ops values schema.naming.valueIdColumn
      (records db schema r i.purpose schema.naming.valueIdColumn) := by
    intro r hr
    rw [hpurpose]
    exact hdb.exact_collected hlookup hstorage hr
  have hrecord : ∀ r ∈ db junction, records db schema r (.collectionValues target.path) =
      (db.row? values schema.naming.valueIdColumn
        (records db schema r i.purpose schema.naming.valueIdColumn)).getD .null := by
    intro r _
    rw [hpurpose]
    exact records_collectionValues r hlookup hstorage
  obtain ⟨hfits', -, ⟨j, hj, hjid, hjpurpose⟩, honly'⟩ := hfits.ensureJoined
    .inner ⟨i.id, schema.naming.valueIdColumn⟩ hunique hi rfl
    ⟨hplain.2, hs.naming.valueIdColumn, hs.naming.valueIdColumn⟩ hexact hrecord
  -- The values are not yet there, so the strict join leaves out the rows without one.
  have hnone : Tables.find? (JoinPlan.addBase { aliases } (.collection target.path)
      junction).2.tables (.collectionValues target.path) = none := by
    cases hfind : Tables.find? (JoinPlan.addBase { aliases } (.collection target.path)
        junction).2.tables (.collectionValues target.path) with
    | none => rfl
    | some k =>
      obtain ⟨k, hk, hkpurpose, -⟩ := Tables.find?_eq_some hfind
      simp [(honly k hk).2] at hkpurpose
  have hkind : (Sql.JoinKind.inner == .leftOuter) = false := rfl
  rw [← hid] at hfits'
  refine ⟨_, _, _, by simp only [addRows, hstorage, ← hid]; rfl, ?_, ?_, j, hj, hjid,
    fun r => ?_⟩
  · simp only [Attribute.collectionTable, Attribute.rowValue?, hstorage]
    refine hfits'.congr fun r _ => ?_
    simp [hnone, hkind, hpurpose, records]
  · intro k hk a
    rcases honly' k hk with hk | hk
    · simp [(honly k hk).2]
    · simp [hk]
  · simp only [Attribute.rowValue?, hstorage]
    rw [hjpurpose, records_collectionValues r hlookup hstorage]
    cases db.row? values schema.naming.valueIdColumn (r schema.naming.valueIdColumn) <;> rfl

theorem fits_addRows (ms : Mentions) (hdb : db.Keyed ops schema) (hs : schema.Proper)
    (hlookup : schema.lookup target.path = .ok target) (hbounded : target.bounded = false)
    {aliases : Aliases AliasKey} (haliases : aliases.Sound) :
    ∃ n c p, addRows schema.naming target { aliases } = .ok (n, c, p) ∧
      RowsFit ops db schema ms target n c p := by
  have hplain := Schema.plain_of_lookup hs hlookup
  rcases Attribute.bounded_eq_false_iff.mp hbounded with
    ⟨table, hstorage⟩ | ⟨junction, values, hstorage⟩
  · rw [hstorage] at hplain
    exact rowsFit_oneToMany ops db ms hlookup hstorage hplain haliases
  · rw [hstorage] at hplain
    exact rowsFit_manyToMany ms hdb hs hlookup hstorage hplain haliases

/-- A row of the table of a collection that stands for a value, and whose item has all aspects. -/
def keeps (db : Contents) (schema : Schema) (target : Attribute) (necessary : List AspectId)
    (r : Record) : Bool :=
  (target.rowValue? db schema.naming r).isSome && necessary.all (present db schema r)

/-- A frame that keeps the rows with values whose items have all necessary aspects. -/
structure Frame.Fits (ops : Operators) (db : Contents) (schema : Schema) (ms : Mentions)
    (predicate : Predicate) (target : Attribute) (necessary : List AspectId) (f : Frame) :
    Prop where
  plan : f.plan.Fits ops db schema ms target.collectionTable ⟨f.base, schema.naming.itemIdColumn⟩
    (keeps db schema target necessary)
  anchor : f.plan.tables.qualify ⟨f.base, schema.naming.itemIdColumn⟩ = .ok f.anchor
  value : ∀ r, (f.plan.tables.scope (records db schema r)).cell f.value =
    (target.rowValue? db schema.naming r).getD .null
  mentions : ∀ m ∈ predicate.mentions, ∃ c, f.plan.column? m = some c
  statement : f.plan.statement f.anchor predicate = .ok f.statement

/-- What a query asks for is known, and the values are those of a collection. -/
structure Known (schema : Schema) (ms : Mentions) (predicate : Predicate) (target : Attribute)
    (necessary : List AspectId) : Prop where
  lookup : schema.lookup target.path = .ok target
  bounded : target.bounded = false
  necessary : ∀ a ∈ necessary, (schema.aspect? a).isSome
  predicate : predicate.Compiled schema ms

theorem fits_frame (h : Known schema ms predicate target necessary) (hdb : db.Keyed ops schema)
    (hs : schema.Proper) {aliases : Aliases AliasKey} (haliases : aliases.Sound) :
    ∃ f, frame schema predicate target necessary aliases = .ok f ∧
      f.Fits ops db schema ms predicate target necessary := by
  obtain ⟨n, c, p₀, hrows, hfits₀, haspect, i, hi, hid, hvalue⟩ :=
    fits_addRows ms hdb hs h.lookup h.bounded haliases
  have htight : p₀.Tight db schema target.collectionTable
      fun r => (target.rowValue? db schema.naming r).isSome :=
    fun j hj a ha => absurd ha (haspect j hj a)
  obtain ⟨strict, p₁, hstrict, hfits₁, hgrows₁, -⟩ :=
    hfits₀.joinAspects_strictly htight hdb hs h.necessary
  obtain ⟨p₂, hresolve, hfits₂, hgrows₂, hcolumns⟩ :=
    hfits₁.resolveAll hdb hs fun m (hm : m ∈ predicate.mentions) => h.predicate.known hm
  obtain ⟨anchor, hanchor, -⟩ := hfits₂.qualify_anchor
  obtain ⟨s, hstatement, -⟩ := hfits₂.statement hs hanchor h.predicate hcolumns
  have hi₂ := (hgrows₁.trans hgrows₂).tables.mem hi
  have hqualify := Tables.qualify_of_mem hfits₂.sound hi₂ c.column
  rw [hid] at hqualify
  refine ⟨⟨p₂, n, anchor, ⟨i.aliasName, c.column⟩, s⟩, ?_, hfits₂, hanchor, fun r => ?_, hcolumns,
    hstatement⟩
  · exact frame_eq_ok_iff.mpr ⟨c, strict, p₀, p₁, hrows, hstrict, hresolve, hanchor, hqualify,
      hstatement⟩
  · rw [Tables.cell_scope hfits₂.sound.distinct hi₂, hvalue r]

variable {f : Frame}

theorem Frame.Fits.finds (hf : f.Fits ops db schema ms predicate target necessary) {m : Mention}
    (hm : m.Known schema ms) (hmentions : m ∈ predicate.mentions) :
    f.plan.Finds m (f.plan.cell m) ∧ ∀ r ∈ db target.collectionTable,
      (f.plan.tables.scope (records db schema r)).cell (f.plan.cell m) =
        stored db schema (r schema.naming.itemIdColumn) m.target := by
  obtain ⟨c, hc⟩ := hf.mentions m hmentions
  exact ⟨⟨c, hc, (hf.plan.cell_eq hm hc).1⟩, fun r hr => hf.plan.cell_scope hm hc hr⟩

theorem Frame.Fits.correlated_eq_ok (hf : f.Fits ops db schema ms predicate target necessary)
    {aliases : Aliases AliasKey}
    (hframe : frame schema predicate target necessary aliases = .ok f) :
    ∃ s aliases', correlated schema predicate target necessary aliases = .ok (s, aliases') ∧
      s.toStatement.Extends f.statement ∧
      s.select.outputs =
        [JoinPlan.outputColumn f.anchor s.itemId, JoinPlan.outputColumn f.value s.value] := by
  obtain ⟨i, hi, hid, -⟩ := hf.plan.mem_anchor
  have horder : ∃ keys, valueOrder schema.naming f = .ok keys := by
    unfold valueOrder
    split
    · exact ⟨_, rfl⟩
    · rename_i name _
      have hqualify := Tables.qualify_of_mem hf.plan.sound hi name
      rw [hid] at hqualify
      exact ⟨_, bind_eq_ok.mpr ⟨_, hqualify, rfl⟩⟩
  obtain ⟨keys, hkeys⟩ := horder
  exact ⟨_, _, correlated_eq_ok_iff.mpr ⟨f, hframe, keys, hkeys, rfl, rfl⟩, ⟨rfl, rfl, rfl, rfl⟩,
    rfl⟩

end

end Collection

end AspectQuery
