import AspectQuery.Proofs.Predicate.Compiled
import AspectQuery.Proofs.Scope.Growth
import AspectQuery.Proofs.Scope.Stored
/-!
# Plans find the values of attributes

A plan over a base keeps some rows of the base, each of them once, and finds the value of every
mention in the column that it has for it. All that joins loosely keeps the same rows.
-/

set_option autoImplicit false

namespace AspectQuery

open Sql (Contents Operators Record Scope isIdentifier)

/-- The names of tables and of the columns that they are joined by are identifiers. -/
structure Tables.Plain (t : Tables) : Prop where
  names : ∀ i ∈ t.instances, isIdentifier i.name
  columns : ∀ e ∈ t.edges, isIdentifier e.left.column ∧ isIdentifier e.right.column

namespace JoinPlan

/-- The column holds the value of an attribute. -/
def Holds (db : Contents) (schema : Schema) (base : String) (target : Attribute) (p : JoinPlan)
    (c : ColumnRef) : Prop :=
  ∃ i ∈ p.tables.instances, i.id = c.table ∧ isIdentifier c.column ∧
    ∀ r ∈ db base, records db schema r i.purpose c.column =
      stored db schema (r schema.naming.itemIdColumn) target

/-- What a plan over a base does: `kept` tells the rows of the base that it keeps. -/
structure Fits (ops : Operators) (db : Contents) (schema : Schema) (ms : Mentions) (base : String)
    (anchor : ColumnRef) (kept : Record → Bool) (p : JoinPlan) : Prop where
  sound : p.tables.Sound p.aliases
  plain : p.tables.Plain
  joins : ∃ js, p.tables.joins = .ok js
  start : base = schema.naming.itemTable ∨ schema.Ties base
  yields : ∀ r ∈ db base, p.tables.Yields ops db (records db schema r) (kept r)
  source : ∃ i rest, p.tables.instances = i :: rest ∧ i.id = anchor.table ∧ i.name = base ∧
    ∀ r ∈ db base, records db schema r i.purpose = r
  anchor : anchor.column = schema.naming.itemIdColumn
  columns : ∀ m c, m.Known schema ms → p.column? m = some c → p.Holds db schema base m.target c

/-- The plan has grown by at most a table for a purpose, which it has now under a number. -/
structure Adds (p q : JoinPlan) (purpose : Purpose) (id : Nat) : Prop where
  grows : p.Grows q
  has : q.Has purpose id
  only : ∀ i ∈ q.tables.instances, i ∈ p.tables.instances ∨ i.purpose = purpose

section

variable {ops : Operators} {db : Contents} {schema : Schema} {ms : Mentions} {base : String}
  {anchor : ColumnRef} {kept : Record → Bool} {p : JoinPlan}

theorem Fits.congr {kept' : Record → Bool} (h : p.Fits ops db schema ms base anchor kept)
    (heq : ∀ r ∈ db base, kept r = kept' r) : p.Fits ops db schema ms base anchor kept' :=
  { h with yields := fun r hr => heq r hr ▸ h.yields r hr }

theorem Fits.mem_anchor (h : p.Fits ops db schema ms base anchor kept) :
    ∃ i ∈ p.tables.instances, i.id = anchor.table ∧
      ∀ r ∈ db base, records db schema r i.purpose anchor.column =
        r schema.naming.itemIdColumn := by
  obtain ⟨i, rest, hi, hid, -, hr⟩ := h.source
  refine ⟨i, by simp [hi], hid, fun r hmem => ?_⟩
  rw [hr r hmem, h.anchor]

/-- A further table that is joined to the plan, or one that is there for its purpose. -/
theorem Fits.ensureJoined (h : p.Fits ops db schema ms base anchor kept)
    {purpose : Purpose} {name column : String} (kind : Sql.JoinKind) (target : ColumnRef)
    (hunique : db.Unique name column) {i : TableInstance} (hi : i ∈ p.tables.instances)
    (htarget : target.table = i.id)
    (hplain : isIdentifier name ∧ isIdentifier column ∧ isIdentifier target.column)
    (hexact : ∀ r ∈ db base,
      db.Exact ops name column (records db schema r i.purpose target.column))
    (hrecord : ∀ r ∈ db base, records db schema r purpose = (db.row? name column
      (records db schema r i.purpose target.column)).getD .null) :
    let q := p.ensureJoined purpose name kind column target
    q.2.Fits ops db schema ms base anchor (fun r => kept r &&
        ((p.tables.find? purpose).isSome || kind == .leftOuter ||
          (db.row? name column (records db schema r i.purpose target.column)).isSome)) ∧
      p.Adds q.2 purpose q.1 := by
  cases hfind : p.tables.find? purpose with
  | some id =>
    obtain ⟨j, hj, hpurpose, hid⟩ := Tables.find?_eq_some hfind
    rw [ensureJoined_of_some hfind]
    exact ⟨by simpa using h, .refl p, ⟨j, hj, hid, hpurpose⟩, fun _ => .inl⟩
  | none =>
    have hgrows := Tables.grows_joinNew p.tables p.aliases purpose name kind column target
    rw [ensureJoined_of_none h.sound.aliases hfind]
    refine ⟨⟨?_, ⟨?_, ?_⟩, ?_, h.start, ?_, ?_, h.anchor, ?_⟩, ⟨hgrows, fun _ _ hc => hc⟩, ?_, ?_⟩
    · exact Tables.sound_joinNew h.sound purpose name kind column target
    · intro j hj
      rcases List.mem_append.mp hj with hj | hj
      · exact h.plain.names j hj
      · rw [List.mem_singleton.mp hj]
        exact hplain.1
    · intro e he
      rcases List.mem_append.mp he with he | he
      · exact h.plain.columns e he
      · rw [List.mem_singleton.mp he]
        exact hplain.2
    · obtain ⟨js, hjs⟩ := h.joins
      exact ⟨_, Tables.joins_joinNew h.sound hjs purpose name kind column hi htarget⟩
    · intro r hr
      exact (h.yields r hr).joinNew h.sound hunique hi htarget (hexact r hr) (hrecord r hr)
    · obtain ⟨j, rest, hj, hid, hname, hsource⟩ := h.source
      exact ⟨j, _, congrArg (· ++ _) hj, hid, hname, hsource⟩
    · intro m c hm hc
      obtain ⟨j, hj, hid, hcolumn, hvalue⟩ := h.columns m c hm hc
      exact ⟨j, hgrows.mem hj, hid, hcolumn, hvalue⟩
    · exact ⟨_, List.mem_append_right _ List.mem_cons_self, rfl, rfl⟩
    · intro j hj
      rcases List.mem_append.mp hj with hj | hj
      · exact .inl hj
      · exact .inr (by rw [List.mem_singleton.mp hj])

theorem Fits.joinAspect (h : p.Fits ops db schema ms base anchor kept)
    (hdb : db.Keyed ops schema) (hs : schema.Proper) (kind : Sql.JoinKind) {id : AspectId}
    {a : Aspect}
    (ha : schema.aspect? id = some a) :
    ∃ n q, p.joinAspect schema kind anchor id = .ok (n, q) ∧
      q.Fits ops db schema ms base anchor (fun r => kept r &&
        ((p.tables.find? (.aspect id)).isSome || kind == .leftOuter ||
          (mainRow? db schema (r schema.naming.itemIdColumn) id).isSome)) ∧
      p.Adds q (.aspect id) n := by
  obtain ⟨i, hi, hid, hvalue⟩ := h.mem_anchor
  have hunique := hdb.aspect a (Schema.aspect?_eq_some ha).1
  have hmain : ∀ r ∈ db base, mainRow? db schema (r schema.naming.itemIdColumn) id =
      db.row? a.table schema.naming.itemIdColumn (records db schema r i.purpose anchor.column) := by
    intro r hr
    rw [hvalue r hr, mainRow?, ha, Option.bind_some]
  have hrecord : ∀ r ∈ db base, records db schema r (.aspect id) = (db.row? a.table
      schema.naming.itemIdColumn (records db schema r i.purpose anchor.column)).getD .null := by
    intro r hr
    rw [records, hmain r hr]
  have hexact : ∀ r ∈ db base, db.Exact ops a.table schema.naming.itemIdColumn
      (records db schema r i.purpose anchor.column) := by
    intro r hr
    rw [hvalue r hr]
    exact hdb.exact_base h.start hr (Schema.aspect?_eq_some ha).1
  have hplain : isIdentifier a.table ∧ isIdentifier schema.naming.itemIdColumn ∧
      isIdentifier anchor.column :=
    ⟨(hs.aspects a (Schema.aspect?_eq_some ha).1).table, hs.naming.itemIdColumn,
      h.anchor ▸ hs.naming.itemIdColumn⟩
  obtain ⟨hfits, hadds⟩ := h.ensureJoined kind anchor hunique hi hid.symm hplain hexact hrecord
  refine ⟨_, _, ?_, hfits.congr fun r hr => by rw [hmain r hr], hadds⟩
  rw [JoinPlan.joinAspect, Schema.require_eq_ok.mpr ha]
  rfl

theorem Fits.joinAspect_loosely (h : p.Fits ops db schema ms base anchor kept)
    (hdb : db.Keyed ops schema) (hs : schema.Proper) {id : AspectId} {a : Aspect}
    (ha : schema.aspect? id = some a) :
    ∃ n q, p.joinAspect schema .leftOuter anchor id = .ok (n, q) ∧
      q.Fits ops db schema ms base anchor kept ∧ p.Adds q (.aspect id) n := by
  obtain ⟨n, q, hjoin, hfits, hadds⟩ := h.joinAspect hdb hs .leftOuter ha
  exact ⟨n, q, hjoin, hfits.congr fun r _ => by simp, hadds⟩

theorem Fits.locate (h : p.Fits ops db schema ms base anchor kept) (hdb : db.Keyed ops schema)
    (hs : schema.Proper) {m : Mention} (hm : m.Known schema ms) :
    ∃ c q, p.locate schema .leftOuter anchor m.target = .ok (c, q) ∧
      q.Fits ops db schema ms base anchor kept ∧ p.Grows q ∧ q.Holds db schema base m.target c := by
  have hplain := Schema.plain_of_lookup hs hm.lookup
  obtain ⟨a, hamem, haid, -⟩ := Schema.lookup_eq_ok hm.lookup
  have ha : schema.aspect? m.target.path.aspect = some a := haid ▸ Schema.aspect?_id hs hamem
  obtain ⟨n, q, hjoin, hfits, hgrows, ⟨i, hi, hid, hpurpose⟩, -⟩ :=
    h.joinAspect_loosely hdb hs ha
  replace hjoin : p.joinAspect schema .leftOuter anchor m.target.aspect = .ok (n, q) := hjoin
  rcases Attribute.bounded_iff.mp hm.bounded with
    ⟨column, hstorage⟩ | ⟨foreignKey, valueTable, hstorage⟩
  · rw [hstorage] at hplain
    refine ⟨⟨n, column⟩, q, ?_, hfits, hgrows, i, hi, hid, hplain, fun r _ => ?_⟩
    · simp [JoinPlan.locate, hstorage, hjoin]
    · rw [hpurpose]
      exact records_inline r hstorage
  · rw [hstorage] at hplain
    have hunique := hdb.value_of_lookup hm.lookup
      (show m.target.storage.valueTable? = some valueTable by rw [hstorage]; rfl)
    have hexact : ∀ r ∈ db base, db.Exact ops valueTable schema.naming.valueIdColumn
        (records db schema r i.purpose foreignKey) := by
      intro r _
      rw [hpurpose]
      exact hdb.exact_shared hs hm.lookup hstorage _
    have hrecord : ∀ r ∈ db base, records db schema r (.sharedValues m.target.path) =
        (db.row? valueTable schema.naming.valueIdColumn
          (records db schema r i.purpose foreignKey)).getD .null := by
      intro r _
      rw [hpurpose]
      exact records_sharedValues r hm.lookup hstorage
    obtain ⟨hfits', hgrows', ⟨j, hj, hjid, hjpurpose⟩, -⟩ := hfits.ensureJoined
      .leftOuter ⟨n, foreignKey⟩ hunique hi hid.symm
      ⟨hplain.2, hs.naming.valueIdColumn, hplain.1⟩ hexact hrecord
    refine ⟨⟨_, schema.naming.valueColumn⟩, _, ?_, hfits'.congr fun r _ => by simp,
      hgrows.trans hgrows', j, hj, hjid, hs.naming.valueColumn, fun r _ => ?_⟩
    · simp only [JoinPlan.locate, hstorage, hjoin]
      rfl
    · rw [hjpurpose]
      exact records_manyToOne r hm.lookup hstorage

theorem known_unique {m m' : Mention} (hm : m.Known schema ms) (hm' : m'.Known schema ms)
    (h : m.index = m'.index) : m = m' := by
  have heq := hm.get?
  rw [h, hm'.get?] at heq
  exact (Option.some.inj heq).symm

theorem Fits.resolve (h : p.Fits ops db schema ms base anchor kept) (hdb : db.Keyed ops schema)
    (hs : schema.Proper) {m : Mention} (hm : m.Known schema ms) :
    ∃ c q, p.resolve schema .leftOuter anchor m = .ok (c, q) ∧
      q.Fits ops db schema ms base anchor kept ∧ p.Grows q ∧ q.column? m = some c := by
  cases hcolumn : p.column? m with
  | some c => exact ⟨c, p, by simp [JoinPlan.resolve, hcolumn], h, .refl p, hcolumn⟩
  | none =>
    obtain ⟨c, q, hlocate, hfits, hgrows, hholds⟩ := h.locate hdb hs hm
    refine ⟨c, { q with columns := q.columns ++ [(m.index, c)] }, ?_, ?_, ?_, ?_⟩
    · simp [JoinPlan.resolve, hcolumn, hlocate]
    · refine { hfits with columns := fun m' c' hm' hc' => ?_ }
      rw [column?_append] at hc'
      cases hold : q.column? m' with
      | some d =>
        rw [hold, Option.some_or] at hc'
        exact hfits.columns m' c' hm' (hold.trans hc')
      | none =>
        rw [hold, Option.none_or] at hc'
        split at hc'
        · rename_i hindex
          obtain rfl := Option.some.inj hc'
          rw [known_unique hm' hm hindex]
          exact hholds
        · simp at hc'
    · refine ⟨hgrows.tables, fun m' c' hc' => ?_⟩
      rw [column?_append, hgrows.columns m' c' hc', Option.some_or]
    · have hnone : q.column? m = none := by
        rw [JoinPlan.column?, columns_locate hlocate]
        exact hcolumn
      rw [column?_append, hnone, Option.none_or, if_pos rfl]

theorem Fits.resolveAll (h : p.Fits ops db schema ms base anchor kept) (hdb : db.Keyed ops schema)
    (hs : schema.Proper) {mentioned : List Mention}
    (hm : ∀ m ∈ mentioned, m.Known schema ms) :
    ∃ q, p.resolveAll schema .leftOuter anchor mentioned = .ok q ∧
      q.Fits ops db schema ms base anchor kept ∧ p.Grows q ∧
      ∀ m ∈ mentioned, ∃ c, q.column? m = some c := by
  induction mentioned generalizing p with
  | nil => exact ⟨p, rfl, h, .refl p, by simp⟩
  | cons m rest ih =>
    obtain ⟨c, q, hresolve, hfits, hgrows, hcolumn⟩ :=
      h.resolve hdb hs (hm m List.mem_cons_self)
    obtain ⟨q', hrest, hfits', hgrows', hcolumns⟩ :=
      ih hfits fun m' hm' => hm m' (List.mem_cons_of_mem m hm')
    refine ⟨q', ?_, hfits', hgrows.trans hgrows', ?_⟩
    · unfold JoinPlan.resolveAll at hrest ⊢
      rw [List.foldlM_cons, hresolve]
      exact hrest
    · intro m' hm'
      rcases List.mem_cons.mp hm' with rfl | hm'
      · exact ⟨c, hgrows'.columns _ c hcolumn⟩
      · exact hcolumns m' hm'

end

end JoinPlan

end AspectQuery
