import AspectQuery.Proofs.Scope.Bookkeeping
import AspectQuery.Proofs.Scope.Numbering
import AspectQuery.Proofs.Scope.Plan
/-!
# Attributes are resolved in any order

A plan joins each table that some attributes need once, whatever is asked for how often and in
which order. Orders differ only in the numbers that the tables get.
-/

set_option autoImplicit false

namespace AspectQuery

/-- What the tables are there for by which the column of an attribute is reached. -/
def Attribute.purposes (target : Attribute) : List Purpose :=
  match target.storage with
  | .inline _ => [.aspect target.aspect]
  | .manyToOne _ _ => [.aspect target.aspect, .sharedValues target.path]
  | .oneToMany _ => []
  | .manyToMany _ _ => []

def ColumnRef.renumber (ρ : Nat → Nat) (c : ColumnRef) : ColumnRef := ⟨ρ c.table, c.column⟩

def JoinEdge.renumber (ρ : Nat → Nat) (e : JoinEdge) : JoinEdge :=
  ⟨e.kind, ρ e.table, e.left.renumber ρ, e.right.renumber ρ⟩

/-- The namespace after a number of further tables. -/
def Aliases.addTables (a : Aliases AliasKey) : Nat → Aliases AliasKey
  | 0 => a
  | n + 1 => ((a.addTables n).allot (.table (a.addTables n).size) AliasKey.tableStem).2

namespace Tables

/-- How a table is joined: the main table of an aspect to the anchor, and the shared values of an
attribute to the main table of its aspect. -/
inductive Attached (schema : Schema) (kind : Sql.JoinKind) (anchor : ColumnRef) (t : Tables) :
    TableInstance → JoinEdge → Prop
  | aspect {i : TableInstance} {a : Aspect} {id : AspectId} (ha : schema.aspect? id = some a)
    (hpurpose : i.purpose = .aspect id) (hname : i.name = a.table) :
    Attached schema kind anchor t i ⟨kind, i.id, ⟨i.id, schema.naming.itemIdColumn⟩, anchor⟩
  | values {i main : TableInstance} {target : Attribute} {foreignKey valueTable : String}
    (hlookup : schema.lookup target.path = .ok target)
    (hstorage : target.storage = .manyToOne foreignKey valueTable)
    (hpurpose : i.purpose = .sharedValues target.path) (hname : i.name = valueTable)
    (hmain : main ∈ t.instances) (haspect : main.purpose = .aspect target.aspect) :
    Attached schema kind anchor t i
      ⟨.leftOuter, i.id, ⟨i.id, schema.naming.valueIdColumn⟩, ⟨main.id, foreignKey⟩⟩

/-- The column that holds the values of an attribute. -/
inductive Located (schema : Schema) (t : Tables) (target : Attribute) : ColumnRef → Prop
  | inline {i : TableInstance} {column : String} (hstorage : target.storage = .inline column)
    (hi : i ∈ t.instances) (hpurpose : i.purpose = .aspect target.aspect) :
    Located schema t target ⟨i.id, column⟩
  | values {i : TableInstance} {foreignKey valueTable : String}
    (hstorage : target.storage = .manyToOne foreignKey valueTable)
    (hi : i ∈ t.instances) (hpurpose : i.purpose = .sharedValues target.path) :
    Located schema t target ⟨i.id, schema.naming.valueColumn⟩

/-- The number of the table with the same purpose in other tables. -/
def counterpart (t t' : Tables) (id : Nat) : Nat :=
  ((t.instances.find? fun i => i.id == id).bind fun i => t'.find? i.purpose).getD id

section

variable {schema : Schema} {kind : Sql.JoinKind} {anchor : ColumnRef} {t t' : Tables}
  {target : Attribute}

theorem Attached.mono (h : t.Grows t') {i : TableInstance} {e : JoinEdge}
    (ha : Attached schema kind anchor t i e) : Attached schema kind anchor t' i e := by
  cases ha with
  | aspect ha hpurpose hname => exact .aspect ha hpurpose hname
  | values hlookup hstorage hpurpose hname hmain haspect =>
    exact .values hlookup hstorage hpurpose hname (h.mem hmain) haspect

theorem Located.mono (h : t.Grows t') {c : ColumnRef} (hc : Located schema t target c) :
    Located schema t' target c := by
  cases hc with
  | inline hstorage hi hpurpose => exact .inline hstorage (h.mem hi) hpurpose
  | values hstorage hi hpurpose => exact .values hstorage (h.mem hi) hpurpose

theorem Located.unique (hpurposes : (t.instances.map TableInstance.purpose).Nodup)
    {c c' : ColumnRef} (h : Located schema t target c) (h' : Located schema t target c') :
    c = c' := by
  cases h with
  | inline hstorage hi hpurpose =>
    cases h' with
    | inline hstorage' hj hpurpose' =>
      obtain rfl := Storage.inline.inj (hstorage.symm.trans hstorage')
      rw [List.inj_on_of_nodup_map hpurposes hi hj (hpurpose.trans hpurpose'.symm)]
    | values hstorage' => exact nomatch hstorage.symm.trans hstorage'
  | values hstorage hi hpurpose =>
    cases h' with
    | inline hstorage' => exact nomatch hstorage.symm.trans hstorage'
    | values hstorage' hj hpurpose' =>
      rw [List.inj_on_of_nodup_map hpurposes hi hj (hpurpose.trans hpurpose'.symm)]

theorem counterpart_eq (hids : (t.instances.map TableInstance.id).Nodup)
    (hpurposes : (t'.instances.map TableInstance.purpose).Nodup) {i j : TableInstance}
    (hi : i ∈ t.instances) (hj : j ∈ t'.instances) (h : i.purpose = j.purpose) :
    t.counterpart t' i.id = j.id := by
  rw [counterpart, find?_of_nodup_map hids hi, Option.bind_some, h, find?_of_mem hpurposes hj,
    Option.getD_some]

variable (hids : (t.instances.map TableInstance.id).Nodup)
  (hpurposes : (t'.instances.map TableInstance.purpose).Nodup)
include hids hpurposes

theorem Located.eq_renumber {c c' : ColumnRef} (h : Located schema t target c)
    (h' : Located schema t' target c') : c' = c.renumber (t.counterpart t') := by
  cases h with
  | inline hstorage hi hpurpose =>
    cases h' with
    | inline hstorage' hj hpurpose' =>
      obtain rfl := Storage.inline.inj (hstorage.symm.trans hstorage')
      rw [ColumnRef.renumber, counterpart_eq hids hpurposes hi hj (hpurpose.trans hpurpose'.symm)]
    | values hstorage' => exact nomatch hstorage.symm.trans hstorage'
  | values hstorage hi hpurpose =>
    cases h' with
    | inline hstorage' => exact nomatch hstorage.symm.trans hstorage'
    | values hstorage' hj hpurpose' =>
      rw [ColumnRef.renumber, counterpart_eq hids hpurposes hi hj (hpurpose.trans hpurpose'.symm)]

/-- For one purpose the same table is joined in the same way. -/
theorem Attached.eq_renumber (hanchor : t.counterpart t' anchor.table = anchor.table)
    {i j : TableInstance} {e e' : JoinEdge} (hi : i ∈ t.instances) (hj : j ∈ t'.instances)
    (h : Attached schema kind anchor t i e) (h' : Attached schema kind anchor t' j e')
    (heq : i.purpose = j.purpose) : i.name = j.name ∧ e.renumber (t.counterpart t') = e' := by
  have hid := counterpart_eq hids hpurposes hi hj heq
  cases h with
  | aspect ha hpurpose hname =>
    cases h' with
    | aspect ha' hpurpose' hname' =>
      obtain rfl := Purpose.aspect.inj (hpurpose.symm.trans (heq.trans hpurpose'))
      obtain rfl := Option.some.inj (ha.symm.trans ha')
      refine ⟨hname.trans hname'.symm, ?_⟩
      simp only [JoinEdge.renumber, ColumnRef.renumber, hid, hanchor]
    | values _ _ hpurpose' => exact nomatch hpurpose.symm.trans (heq.trans hpurpose')
  | values hlookup hstorage hpurpose hname hmain haspect =>
    cases h' with
    | aspect _ hpurpose' => exact nomatch hpurpose.symm.trans (heq.trans hpurpose')
    | values hlookup' hstorage' hpurpose' hname' hmain' haspect' =>
      have hpath := Purpose.sharedValues.inj (hpurpose.symm.trans (heq.trans hpurpose'))
      rw [← hpath, hlookup] at hlookup'
      obtain rfl := Except.ok.inj hlookup'
      obtain ⟨rfl, rfl⟩ := Storage.manyToOne.inj (hstorage.symm.trans hstorage')
      have hmains := counterpart_eq hids hpurposes hmain hmain' (haspect.trans haspect'.symm)
      refine ⟨hname.trans hname'.symm, ?_⟩
      simp only [JoinEdge.renumber, ColumnRef.renumber, hid, hmains]

end

end Tables

namespace JoinPlan

open Tables (Attached Located)

/-- A plan as the statements make it before they resolve attributes: a base, and tables that are
joined to it. -/
inductive Started (schema : Schema) (base : Nat) : JoinPlan → Prop
  | base {aliases : Aliases AliasKey} (haliases : aliases.Sound) (purpose : Purpose)
    (name : String) {p : JoinPlan}
    (h : ({ aliases } : JoinPlan).addBase purpose name = (base, p)) : Started schema base p
  | aspect {p q : JoinPlan} {kind : Sql.JoinKind} {column : String} {id : AspectId} {n : Nat}
    (hp : Started schema base p) (h : p.joinAspect schema kind ⟨base, column⟩ id = .ok (n, q)) :
    Started schema base q
  | collectionValues {p : JoinPlan} (hp : Started schema base p) (path : AttributePath)
    (name : String) (kind : Sql.JoinKind) (column column' : String) :
    Started schema base
      (p.ensureJoined (.collectionValues path) name kind column ⟨base, column'⟩).2

/-- A plan whose tables are joined to a base or to each other. -/
structure Rooted (base : Nat) (p : JoinPlan) : Prop where
  sound : p.tables.Sound p.aliases
  linked : p.tables.Linked
  base : p.Knows base
  joined : ∀ e ∈ p.tables.edges, p.Knows e.right.table

/-- The tables `added` to a plan with their joins: one for each purpose that is needed, unless the
plan has a table for it. -/
structure Covers (schema : Schema) (kind : Sql.JoinKind) (anchor : ColumnRef) (p : JoinPlan)
    (needs : List Purpose) (added : List (TableInstance × JoinEdge)) (q : JoinPlan) : Prop where
  instances : q.tables.instances = p.tables.instances ++ added.map Prod.fst
  edges : q.tables.edges = p.tables.edges ++ added.map Prod.snd
  aliases : q.aliases = p.aliases.addTables added.length
  attached : ∀ x ∈ added, Attached schema kind anchor q.tables x.1 x.2
  nodup : (added.map fun x => x.1.purpose).Nodup
  mem : ∀ purpose, purpose ∈ added.map (fun x => x.1.purpose) ↔
    purpose ∈ needs ∧ p.tables.find? purpose = none

section

variable {schema : Schema} {kind : Sql.JoinKind} {anchor : ColumnRef} {p q r : JoinPlan}
  {base : Nat} {purpose : Purpose} {needs : List Purpose}
  {added : List (TableInstance × JoinEdge)}

namespace Rooted

theorem ids (h : p.Rooted base) : (p.tables.instances.map TableInstance.id).Nodup :=
  h.sound.ordered.imp Nat.ne_of_lt

theorem ensureJoined (h : p.Rooted base) (purpose : Purpose) (name : String)
    (kind : Sql.JoinKind) (column : String) {target : ColumnRef} (htarget : p.Knows target.table) :
    (p.ensureJoined purpose name kind column target).2.Rooted base := by
  cases hfind : p.tables.find? purpose with
  | some id =>
    rw [ensureJoined_of_some hfind]
    exact h
  | none =>
    have hgrows := Tables.grows_joinNew p.tables p.aliases purpose name kind column target
    have hne : p.tables.instances ≠ [] := by
      obtain ⟨i, hi, -⟩ := h.base
      exact List.ne_nil_of_mem hi
    rw [ensureJoined_of_none h.sound.aliases hfind]
    refine ⟨Tables.sound_joinNew h.sound purpose name kind column target,
      h.linked.extend (d := .joined kind column target) hne hfind p.aliases name,
      h.base.mono hgrows, fun e he => ?_⟩
    rcases List.mem_append.mp he with he | he
    · exact (h.joined e he).mono hgrows
    · rw [List.mem_singleton.mp he]
      exact htarget.mono hgrows

theorem grown (h : p.Rooted base) (hgrown : p.Grown q) : q.Rooted base := by
  induction hgrown with
  | refl => exact h
  | join _ purpose name kind column target htarget ih =>
    exact ih.ensureJoined purpose name kind column htarget
  | column _ m c ih => exact ⟨ih.sound, ih.linked, ih.base, ih.joined⟩

end Rooted

theorem rooted_addBase {aliases : Aliases AliasKey} (haliases : aliases.Sound) {name : String}
    (h : ({ aliases } : JoinPlan).addBase purpose name = (base, p)) :
    p.Rooted base ∧ p.columns = [] := by
  obtain ⟨hsound, hknows⟩ := sound_addBase haliases purpose name
  rw [h] at hsound hknows
  rw [addBase_eq haliases] at h
  obtain ⟨rfl, rfl⟩ := Prod.mk.inj h
  exact ⟨⟨hsound, ⟨List.nodup_singleton _, rfl, nofun⟩, hknows, nofun⟩, rfl⟩

theorem Started.rooted (h : Started schema base p) : p.Rooted base ∧ p.columns = [] := by
  induction h with
  | base haliases _ _ h => exact rooted_addBase haliases h
  | aspect hp h ih =>
    obtain ⟨hrooted, hcolumns⟩ := ih
    exact ⟨hrooted.grown (grown_joinAspect hrooted.base h).1, (columns_joinAspect h).trans hcolumns⟩
  | collectionValues hp path name kind column column' ih =>
    obtain ⟨hrooted, hcolumns⟩ := ih
    exact ⟨hrooted.ensureJoined _ _ _ _ hrooted.base, hcolumns⟩

namespace Covers

theorem refl (schema : Schema) (kind : Sql.JoinKind) (anchor : ColumnRef) (p : JoinPlan) :
    Covers schema kind anchor p [] [] p :=
  ⟨by simp, by simp, rfl, nofun, List.nodup_nil, by simp⟩

theorem grows (h : Covers schema kind anchor p needs added q) : p.tables.Grows q.tables :=
  ⟨h.instances ▸ List.prefix_append _ _, h.edges ▸ List.prefix_append _ _⟩

theorem congr {needs' : List Purpose} (h : Covers schema kind anchor p needs added q)
    (heq : ∀ purpose, purpose ∈ needs ↔ purpose ∈ needs') :
    Covers schema kind anchor p needs' added q :=
  { h with mem := fun purpose => (h.mem purpose).trans (and_congr_left fun _ => heq purpose) }

theorem find?_eq_none_of_grows (h : p.tables.Grows q.tables)
    (hnone : q.tables.find? purpose = none) : p.tables.find? purpose = none := by
  cases hfind : p.tables.find? purpose with
  | none => rfl
  | some id =>
    obtain ⟨i, hi, hpurpose, -⟩ := Tables.find?_eq_some hfind
    exact absurd hpurpose (Tables.purpose_ne_of_find? hnone i (h.mem hi))

/-- A purpose for which there is a table already may be needed, too. -/
theorem found (h : Covers schema kind anchor p needs added q) {id : Nat}
    (hfind : q.tables.find? purpose = some id) :
    Covers schema kind anchor p (needs ++ [purpose]) added q := by
  refine { h with mem := fun purpose' => ?_ }
  rw [h.mem, List.mem_append, List.mem_singleton]
  refine ⟨fun ⟨hneeds, hnone⟩ => ⟨.inl hneeds, hnone⟩, ?_⟩
  rintro ⟨hneeds | rfl, hnone⟩
  · exact ⟨hneeds, hnone⟩
  · obtain ⟨i, hi, rfl, -⟩ := Tables.find?_eq_some hfind
    rw [h.instances] at hi
    rcases List.mem_append.mp hi with hi | hi
    · exact absurd rfl (Tables.purpose_ne_of_find? hnone i hi)
    · obtain ⟨x, hx, rfl⟩ := List.mem_map.mp hi
      exact (h.mem _).mp (List.mem_map_of_mem (f := fun x => x.1.purpose) hx)

theorem ensureJoined (h : Covers schema kind anchor p needs added q) (hq : q.Rooted base)
    (purpose : Purpose) (name : String) (kind' : Sql.JoinKind) (column : String)
    (target : ColumnRef)
    (hattached : ∀ t i, q.tables.Grows t → i.purpose = purpose → i.name = name →
      Attached schema kind anchor t i ⟨kind', i.id, ⟨i.id, column⟩, target⟩) :
    ∃ added', Covers schema kind anchor p (needs ++ [purpose]) added'
      (q.ensureJoined purpose name kind' column target).2 := by
  cases hfind : q.tables.find? purpose with
  | some id =>
    rw [ensureJoined_of_some hfind]
    exact ⟨added, h.found hfind⟩
  | none =>
    have hgrows := Tables.grows_joinNew q.tables q.aliases purpose name kind' column target
    have hnone := find?_eq_none_of_grows h.grows hfind
    rw [ensureJoined_of_none hq.sound.aliases hfind]
    let i := Tables.newInstance q.aliases purpose name
    refine ⟨added ++ [(i, ⟨kind', i.id, ⟨i.id, column⟩, target⟩)], ?_, ?_, ?_, ?_, ?_, ?_⟩
    · rw [List.map_append, ← List.append_assoc, ← h.instances]
      rfl
    · rw [List.map_append, ← List.append_assoc, ← h.edges]
      rfl
    · rw [List.length_append, List.length_singleton, Aliases.addTables, ← h.aliases,
        Aliases.allot_of_none (Aliases.get?_table_size hq.sound.aliases)]
    · intro x hx
      rcases List.mem_append.mp hx with hx | hx
      · exact (h.attached x hx).mono hgrows
      · obtain rfl := List.mem_singleton.mp hx
        exact hattached _ i hgrows rfl rfl
    · rw [List.map_append, List.nodup_append]
      refine ⟨h.nodup, List.nodup_singleton _, ?_⟩
      rintro _ hold _ hnew rfl
      obtain ⟨x, hx, rfl⟩ := List.mem_map.mp hold
      refine Tables.purpose_ne_of_find? hfind x.1 ?_ (List.mem_singleton.mp hnew)
      rw [h.instances]
      exact List.mem_append_right _ (List.mem_map_of_mem hx)
    · intro purpose'
      rw [List.map_append, List.mem_append, h.mem, List.mem_append, or_and_right]
      refine or_congr Iff.rfl ?_
      simp only [List.map_cons, List.map_nil, List.mem_singleton]
      refine ⟨fun heq => ⟨heq, heq ▸ hnone⟩, fun ⟨heq, _⟩ => heq⟩

theorem joinAspect (h : Covers schema kind anchor p needs added q) (hq : q.Rooted anchor.table)
    {id : AspectId} {a : Aspect} (ha : schema.aspect? id = some a) :
    ∃ n r added', q.joinAspect schema kind anchor id = .ok (n, r) ∧
      Covers schema kind anchor p (needs ++ [.aspect id]) added' r := by
  obtain ⟨added', hcovers⟩ := h.ensureJoined hq (.aspect id) a.table kind
    schema.naming.itemIdColumn anchor fun _ _ _ hpurpose hname => .aspect ha hpurpose hname
  have hjoin : q.joinAspect schema kind anchor id = .ok (q.ensureJoined (.aspect id) a.table kind
      schema.naming.itemIdColumn anchor) := by
    rw [JoinPlan.joinAspect, Schema.require_eq_ok.mpr ha]
    rfl
  exact ⟨_, _, added', hjoin, hcovers⟩

theorem locate (h : Covers schema kind anchor p needs added q) (hq : q.Rooted anchor.table)
    {target : Attribute} (hlookup : schema.lookup target.path = .ok target)
    (hbounded : target.bounded) :
    ∃ c r added', q.locate schema kind anchor target = .ok (c, r) ∧
      Covers schema kind anchor p (needs ++ target.purposes) added' r ∧
      Located schema r.tables target c := by
  obtain ⟨a, ha⟩ : ∃ a, schema.aspect? target.aspect = some a := Schema.aspect?_of_lookup hlookup
  obtain ⟨n, r, added', hjoin, hcovers⟩ := h.joinAspect hq ha
  obtain ⟨hgrown, i, hi, hid, hpurpose⟩ := grown_joinAspect hq.base hjoin
  rcases Attribute.bounded_iff.mp hbounded with
    ⟨column, hstorage⟩ | ⟨foreignKey, valueTable, hstorage⟩
  · refine ⟨⟨n, column⟩, r, added', ?_, ?_, hid ▸ .inline hstorage hi hpurpose⟩
    · simp only [JoinPlan.locate, hstorage, hjoin]
      rfl
    · simpa only [Attribute.purposes, hstorage] using hcovers
  · obtain ⟨added'', hcovers'⟩ := hcovers.ensureJoined (hq.grown hgrown)
      (.sharedValues target.path) valueTable .leftOuter schema.naming.valueIdColumn ⟨n, foreignKey⟩
      fun t k hk hpurpose' hname => hid ▸
        .values hlookup hstorage hpurpose' hname (hk.mem hi) hpurpose
    obtain ⟨-, j, hj, hjid, hjpurpose⟩ := grows_ensureJoined r (.sharedValues target.path)
      valueTable .leftOuter schema.naming.valueIdColumn ⟨n, foreignKey⟩
    refine ⟨⟨j.id, schema.naming.valueColumn⟩, _, added'', ?_, ?_, .values hstorage hj hjpurpose⟩
    · simp only [JoinPlan.locate, hstorage, hjoin, hjid]
      rfl
    · simpa only [Attribute.purposes, hstorage, List.append_assoc, List.cons_append,
        List.nil_append] using hcovers'

end Covers

/-- The columns of the mentions that were resolved so far. -/
structure Resolves (schema : Schema) (kind : Sql.JoinKind) (anchor : ColumnRef) (arena : Mentions)
    (p : JoinPlan) (seen : List Mention) (added : List (TableInstance × JoinEdge))
    (q : JoinPlan) : Prop where
  rooted : q.Rooted anchor.table
  covers : Covers schema kind anchor p (seen.flatMap fun m => m.target.purposes) added q
  column : ∀ m ∈ seen, ∃ c, q.column? m = some c
  located : ∀ m c, m.Known schema arena → q.column? m = some c →
    m ∈ seen ∧ Located schema q.tables m.target c

namespace Resolves

variable {arena : Mentions} {seen : List Mention}

theorem resolve (h : Resolves schema kind anchor arena p seen added q) {m : Mention}
    (hm : m.Known schema arena) :
    ∃ c r added', q.resolve schema kind anchor m = .ok (c, r) ∧
      Resolves schema kind anchor arena p (seen ++ [m]) added' r := by
  have hneeds : ((seen ++ [m]).flatMap fun m => m.target.purposes) =
      (seen.flatMap fun m => m.target.purposes) ++ m.target.purposes := by
    simp
  cases hcolumn : q.column? m with
  | some c =>
    have hseen := (h.located m c hm hcolumn).1
    refine ⟨c, q, added, by simp [JoinPlan.resolve, hcolumn], h.rooted, ?_, ?_, ?_⟩
    · refine h.covers.congr fun purpose => ?_
      rw [hneeds, List.mem_append]
      exact (or_iff_left_of_imp fun hp => List.mem_flatMap.mpr ⟨m, hseen, hp⟩).symm
    · intro m' hm'
      rcases List.mem_append.mp hm' with hm' | hm'
      · exact h.column m' hm'
      · exact List.mem_singleton.mp hm' ▸ ⟨c, hcolumn⟩
    · intro m' c' hm' hc'
      obtain ⟨hseen', hlocated⟩ := h.located m' c' hm' hc'
      exact ⟨List.mem_append_left _ hseen', hlocated⟩
  | none =>
    obtain ⟨c, r, added', hlocate, hcovers, hlocated⟩ :=
      h.covers.locate h.rooted hm.lookup hm.bounded
    have hgrown := grown_locate h.rooted.base hlocate
    have hcolumns : ∀ m', r.column? m' = q.column? m' := fun m' => by
      rw [column?, columns_locate hlocate, ← column?]
    refine ⟨c, { r with columns := r.columns ++ [(m.index, c)] }, added', ?_,
      h.rooted.grown (hgrown.column m c), hneeds ▸ ⟨hcovers.instances, hcovers.edges,
        hcovers.aliases, hcovers.attached, hcovers.nodup, hcovers.mem⟩, ?_, ?_⟩
    · simp only [JoinPlan.resolve, hcolumn, hlocate]
      rfl
    · intro m' hm'
      rw [column?_append, hcolumns]
      rcases List.mem_append.mp hm' with hm' | hm'
      · obtain ⟨c', hc'⟩ := h.column m' hm'
        exact ⟨c', by rw [hc', Option.some_or]⟩
      · obtain rfl := List.mem_singleton.mp hm'
        exact ⟨c, by rw [hcolumn, Option.none_or, if_pos rfl]⟩
    · intro m' c' hm' hc'
      rw [column?_append, hcolumns] at hc'
      cases hold : q.column? m' with
      | some d =>
        rw [hold, Option.some_or] at hc'
        obtain ⟨hseen', hlocated'⟩ := h.located m' c' hm' (hold.trans hc')
        exact ⟨List.mem_append_left _ hseen', hlocated'.mono hgrown.grows.tables⟩
      | none =>
        rw [hold, Option.none_or] at hc'
        split at hc'
        · rename_i hindex
          obtain rfl := Option.some.inj hc'
          obtain rfl := known_unique hm' hm hindex
          exact ⟨List.mem_append_right _ (List.mem_singleton_self _), hlocated⟩
        · simp at hc'

theorem resolveAll (h : Resolves schema kind anchor arena p seen added q) {ms : List Mention}
    (hms : ∀ m ∈ ms, m.Known schema arena) :
    ∃ r added', q.resolveAll schema kind anchor ms = .ok r ∧
      Resolves schema kind anchor arena p (seen ++ ms) added' r := by
  induction ms generalizing q seen added with
  | nil => exact ⟨q, added, rfl, by simpa using h⟩
  | cons m rest ih =>
    obtain ⟨c, r, added', hresolve, hr⟩ := h.resolve (hms m List.mem_cons_self)
    obtain ⟨r', added'', hrest, hr'⟩ := ih hr fun m' hm' => hms m' (List.mem_cons_of_mem m hm')
    refine ⟨r', added'', ?_, by simpa using hr'⟩
    unfold JoinPlan.resolveAll at hrest ⊢
    rw [List.foldlM_cons, hresolve]
    exact hrest

end Resolves

/-- Two plans have the same tables, the same joins and the same columns of mentions, but for the
numbers of the tables. -/
structure Renumbers (ρ : Nat → Nat) (ms : List Mention) (q q' : JoinPlan) : Prop where
  instances : (q.tables.instances.map fun i => (ρ i.id, i.purpose, i.name)).Perm
    (q'.tables.instances.map fun i => (i.id, i.purpose, i.name))
  edges : (q.tables.edges.map (JoinEdge.renumber ρ)).Perm q'.tables.edges
  column : ∀ m ∈ ms, q'.column? m = (q.column? m).map (ColumnRef.renumber ρ)

namespace Covers

variable {needs' : List Purpose} {added' : List (TableInstance × JoinEdge)} {q' : JoinPlan}

theorem counterpart_old (h : Covers schema kind anchor p needs added q)
    (hq : q.Rooted base) (h' : Covers schema kind anchor p needs' added' q') (hq' : q'.Rooted base)
    {id : Nat} (hid : p.Knows id) : q.tables.counterpart q'.tables id = id := by
  obtain ⟨i, hi, rfl⟩ := hid
  exact Tables.counterpart_eq hq.ids hq'.linked.purposes (h.grows.mem hi) (h'.grows.mem hi) rfl

/-- The same is added for the same purposes. -/
theorem perm_added (h : Covers schema kind anchor p needs added q)
    (hq : q.Rooted anchor.table) (h' : Covers schema kind anchor p needs' added' q')
    (hq' : q'.Rooted anchor.table) (hbase : p.Knows anchor.table)
    (hneeds : ∀ purpose, purpose ∈ needs ↔ purpose ∈ needs') :
    let ρ := q.tables.counterpart q'.tables
    (added.map fun x => ((ρ x.1.id, x.1.purpose, x.1.name), x.2.renumber ρ)).Perm
      (added'.map fun x => ((x.1.id, x.1.purpose, x.1.name), x.2)) := by
  intro ρ
  have hpurposes : ∀ purpose, purpose ∈ added.map (fun x => x.1.purpose) ↔
      purpose ∈ added'.map fun x => x.1.purpose := fun purpose => by
    rw [h.mem, h'.mem, hneeds]
  have hsame : ∀ x ∈ added, ∀ y ∈ added', x.1.purpose = y.1.purpose →
      ((ρ x.1.id, x.1.purpose, x.1.name), x.2.renumber ρ) =
        ((y.1.id, y.1.purpose, y.1.name), y.2) := by
    intro x hx y hy heq
    have hx' : x.1 ∈ q.tables.instances :=
      h.instances ▸ List.mem_append_right _ (List.mem_map_of_mem hx)
    have hy' : y.1 ∈ q'.tables.instances :=
      h'.instances ▸ List.mem_append_right _ (List.mem_map_of_mem hy)
    obtain ⟨hname, hedge⟩ := (h.attached x hx).eq_renumber hq.ids hq'.linked.purposes
      (counterpart_old h hq h' hq' hbase) hx' hy' (h'.attached y hy) heq
    have hid := Tables.counterpart_eq hq.ids hq'.linked.purposes hx' hy' heq
    simp only [ρ, hid, heq, hname, hedge]
  refine (List.perm_ext_iff_of_nodup ?_ ?_).mpr fun z => ?_
  · refine List.Nodup.of_map (fun z => z.1.2.1) ?_
    rw [List.map_map]
    exact h.nodup
  · refine List.Nodup.of_map (fun z => z.1.2.1) ?_
    rw [List.map_map]
    exact h'.nodup
  · simp only [List.mem_map]
    constructor
    · rintro ⟨x, hx, rfl⟩
      obtain ⟨y, hy, heq⟩ := List.mem_map.mp
        ((hpurposes _).mp (List.mem_map_of_mem (f := fun x => x.1.purpose) hx))
      exact ⟨y, hy, (hsame x hx y hy heq.symm).symm⟩
    · rintro ⟨y, hy, rfl⟩
      obtain ⟨x, hx, heq⟩ := List.mem_map.mp
        ((hpurposes _).mpr (List.mem_map_of_mem (f := fun x => x.1.purpose) hy))
      exact ⟨x, hx, hsame x hx y hy heq⟩

end Covers

namespace Resolves

variable {arena : Mentions} {ms ms' : List Mention} {added' : List (TableInstance × JoinEdge)}
  {q' : JoinPlan}

theorem renumbers (h : Resolves schema kind anchor arena p ms added q) (hp : p.Rooted anchor.table)
    (hms : ∀ m ∈ ms, m.Known schema arena) (h' : Resolves schema kind anchor arena p ms' added' q')
    (hperm : ms'.Perm ms) : q'.aliases = q.aliases ∧
    (∀ i ∈ p.tables.instances, q.tables.counterpart q'.tables i.id = i.id) ∧
    Renumbers (q.tables.counterpart q'.tables) ms q q' := by
  have hneeds : ∀ purpose, purpose ∈ (ms.flatMap fun m => m.target.purposes) ↔
      purpose ∈ ms'.flatMap fun m => m.target.purposes :=
    fun purpose => ((hperm.flatMap_right _).mem_iff).symm
  have hadded := h.covers.perm_added h.rooted h'.covers h'.rooted hp.base hneeds
  have hold : ∀ id, p.Knows id → q.tables.counterpart q'.tables id = id :=
    fun id => h.covers.counterpart_old h.rooted h'.covers h'.rooted
  refine ⟨?_, fun i hi => hold _ ⟨i, hi, rfl⟩, ?_, ?_, ?_⟩
  · have hlength := hadded.length_eq
    rw [List.length_map, List.length_map] at hlength
    rw [h.covers.aliases, h'.covers.aliases, hlength]
  · have hnew := hadded.map Prod.fst
    rw [List.map_map, List.map_map] at hnew
    rw [h.covers.instances, h'.covers.instances, List.map_append, List.map_append, List.map_map,
      List.map_map]
    refine List.Perm.append (.of_eq (List.map_congr_left fun i hi => ?_)) hnew
    rw [hold _ ⟨i, hi, rfl⟩]
  · have hnew := hadded.map Prod.snd
    rw [List.map_map, List.map_map] at hnew
    rw [h.covers.edges, h'.covers.edges, List.map_append, List.map_map]
    have hsame : p.tables.edges.map (JoinEdge.renumber (q.tables.counterpart q'.tables)) =
        p.tables.edges := by
      refine (List.map_congr_left fun e he => ?_).trans (List.map_id _)
      have htable : p.Knows e.table := by
        have hmem := List.mem_map_of_mem (f := JoinEdge.table) he
        rw [hp.linked.edges] at hmem
        exact List.mem_map.mp (List.mem_of_mem_tail hmem)
      have hleft : p.Knows e.left.table := (hp.linked.left e he).symm ▸ htable
      simp only [JoinEdge.renumber, ColumnRef.renumber, hold _ htable, hold _ hleft,
        hold _ (hp.joined e he), id_eq]
    rw [hsame]
    exact hnew.append_left p.tables.edges
  · intro m hm
    obtain ⟨c, hc⟩ := h.column m hm
    obtain ⟨c', hc'⟩ := h'.column m (hperm.mem_iff.mpr hm)
    have hknown := hms m hm
    rw [hc, hc', Option.map_some, (h.located m c hknown hc).2.eq_renumber h.rooted.ids
      h'.rooted.linked.purposes (h'.located m c' hknown hc').2]

end Resolves

/-- What a plan has made of mentions. -/
structure Resolved (schema : Schema) (kind : Sql.JoinKind) (anchor : ColumnRef) (p : JoinPlan)
    (ms : List Mention) (q : JoinPlan) : Prop where
  /-- Each mention has a column, whatever else is resolved, and nothing more is joined for it. -/
  again : ∀ m ∈ ms, ∃ c, q.column? m = some c ∧ Located schema q.tables m.target c ∧
    ∀ others r, q.resolveAll schema kind anchor others = .ok r →
      r.resolve schema kind anchor m = .ok (c, r)
  same : ∀ m ∈ ms, ∀ m' ∈ ms, m.target.path = m'.target.path → q.column? m = q.column? m'
  joined : ∃ added,
    Covers schema kind anchor p (ms.flatMap fun m => m.target.purposes) added q

theorem Resolves.resolved {arena : Mentions} {ms : List Mention}
    (h : Resolves schema kind anchor arena p ms added q) (hms : ∀ m ∈ ms, m.Known schema arena) :
    Resolved schema kind anchor p ms q := by
  refine ⟨fun m hm => ?_, fun m hm m' hm' hpath => ?_, added, h.covers⟩
  · obtain ⟨c, hc⟩ := h.column m hm
    refine ⟨c, hc, (h.located m c (hms m hm) hc).2, fun others r hr => ?_⟩
    have hgrown := grown_resolveAll h.rooted.base hr
    simp only [JoinPlan.resolve, hgrown.grows.columns m c hc]
  · obtain ⟨c, hc⟩ := h.column m hm
    obtain ⟨c', hc'⟩ := h.column m' hm'
    have htarget : m'.target = m.target := by
      have hlookup := (hms m' hm').lookup
      rw [← hpath, (hms m hm).lookup] at hlookup
      exact (Except.ok.inj hlookup).symm
    have hlocated := (h.located m' c' (hms m' hm') hc').2
    rw [htarget] at hlocated
    rw [hc, hc', (h.located m c (hms m hm) hc).2.unique h.rooted.linked.purposes hlocated]

/-- However often and in whatever order mentions are resolved, the same tables are joined in the
same ways, and each mention has the same column. -/
theorem resolved_in_any_order (hp : Started schema anchor.table p) {arena : Mentions}
    {ms : List Mention} (hms : ∀ m ∈ ms, m.Known schema arena) :
    ∃ q, p.resolveAll schema kind anchor ms = .ok q ∧ Resolved schema kind anchor p ms q ∧
      ∀ ms', ms'.Perm ms → ∃ q', p.resolveAll schema kind anchor ms' = .ok q' ∧
        q'.aliases = q.aliases ∧
        ∃ ρ, (∀ i ∈ p.tables.instances, ρ i.id = i.id) ∧ Renumbers ρ ms q q' := by
  obtain ⟨hrooted, hcolumns⟩ := hp.rooted
  have hstart : Resolves schema kind anchor arena p [] [] p :=
    ⟨hrooted, .refl schema kind anchor p, nofun, fun m c _ hc => by simp [column?, hcolumns] at hc⟩
  obtain ⟨q, added, hq, hresolves⟩ := hstart.resolveAll hms
  refine ⟨q, hq, hresolves.resolved hms, fun ms' hperm => ?_⟩
  obtain ⟨q', added', hq', hresolves'⟩ :=
    hstart.resolveAll fun m hm => hms m (hperm.mem_iff.mp hm)
  obtain ⟨haliases, hold, hrenumbers⟩ := hresolves.renumbers hrooted hms hresolves' hperm
  exact ⟨q', hq', haliases, _, hold, hrenumbers⟩

end

/-- Films with a title and with a studio that they share. -/
def studioFilms : Schema where
  aspects := [⟨"film", "Film", "M_FILM",
    [⟨"film", "title", .string, .inline "TITLE"⟩,
      ⟨"film", "studio", .string, .manyToOne "STUDIO_ID" "V_FILM_STUDIO"⟩]⟩]

theorem resolved_in_any_order_studioFilms :
    let title : Attribute := ⟨"film", "title", .string, .inline "TITLE"⟩
    let studio : Attribute := ⟨"film", "studio", .string, .manyToOne "STUDIO_ID" "V_FILM_STUDIO"⟩
    let arena : Mentions := ⟨[studio, title, studio]⟩
    let p := (({} : JoinPlan).addBase .items "MEDIA_ITEMS").2
    let ms : List Mention := [⟨0, studio⟩, ⟨1, title⟩, ⟨2, studio⟩, ⟨0, studio⟩]
    Started studioFilms 0 p ∧ (∀ m ∈ ms, m.Known studioFilms arena) ∧
      ∃ q, p.resolveAll studioFilms .inner ⟨0, "MEDIA_ITEM_ID"⟩ ms = .ok q ∧
        Resolved studioFilms .inner ⟨0, "MEDIA_ITEM_ID"⟩ p ms q ∧
        ∀ ms', ms'.Perm ms → ∃ q',
          p.resolveAll studioFilms .inner ⟨0, "MEDIA_ITEM_ID"⟩ ms' = .ok q' ∧
          q'.aliases = q.aliases ∧
          ∃ ρ, (∀ i ∈ p.tables.instances, ρ i.id = i.id) ∧ Renumbers ρ ms q q' := by
  intro title studio arena p ms
  have hp : Started studioFilms 0 p := .base Aliases.sound_empty .items "MEDIA_ITEMS" rfl
  have hms : ∀ m ∈ ms, m.Known studioFilms arena := by
    simp only [ms, List.forall_mem_cons]
    exact ⟨⟨rfl, rfl, rfl⟩, ⟨rfl, rfl, rfl⟩, ⟨rfl, rfl, rfl⟩, ⟨rfl, rfl, rfl⟩, nofun⟩
  exact ⟨hp, hms, resolved_in_any_order hp hms⟩

end JoinPlan

end AspectQuery
