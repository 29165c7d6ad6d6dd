import AspectQuery.Proofs.Query.Occurrences
import AspectQuery.Proofs.Query.Scoping
import AspectQuery.Proofs.Statement.Result
import Mathlib.Data.List.Lex
import Mathlib.Data.List.Sort
import Mathlib.Order.Basic
/-!
# Distinct values and groups of items

The statement that counts items by value gives the same values as the statement of distinct values,
in the same order. It counts pairs of an item and a value, each once, so that several rows of one
item with one value count as one.
-/

set_option autoImplicit false

namespace AspectQuery

open Sql (Contents Operators Scope Group Line)

namespace Value

/-- The kind of a value, and what it is made of. -/
def rank : Value → List Nat
  | .null => [0]
  | .boolean b => [1, b.toNat]
  | .integer i => [2, (i.toInt + Nat.pow 2 63).toNat]
  | .float x => [3, x.bits.toNat]
  | .text s => 4 :: s.toList.map Char.toNat
  | .id item => 5 :: item.digits.map Fin.val

theorem rank_injective : Function.Injective rank := by
  rintro (_ | b | i | x | s | item) (_ | b' | i' | x' | s' | item') h <;> simp [rank] at h ⊢
  case boolean.boolean => revert h; cases b <;> cases b' <;> decide
  case integer.integer =>
    have hi := i.le_toInt
    have hi' := i'.le_toInt
    exact Int64.toInt_inj.mp (by omega)
  case float.float =>
    cases x
    cases x'
    exact congrArg _ (UInt64.toNat_inj.mp h)
  case text.text =>
    exact String.toList_inj.mp (List.map_injective_iff.mpr (fun _ _ => Char.toNat_inj.mp) h)
  case id.id =>
    cases item
    cases item'
    simpa using List.map_injective_iff.mpr Fin.val_injective h

/-- An order of values as a store may have it. -/
@[reducible]
def byRank : LinearOrder Value := .lift' rank rank_injective

end Value

namespace ValueQuery

/-- The row of a distinct value. -/
def valueLine (aliasName : String) (v : Value) : Line := [(some aliasName, .value v)]

/-- The row of an item and its value. -/
def pairLine (itemId value : String) (p : Value × Value) : Line :=
  [(some itemId, .value p.1), (some value, .value p.2)]

/-- The row of a number of items and their value. -/
def countLine (count value : String) (n : Nat) (v : Value) : Line :=
  [(some count, .count n), (some value, .value v)]

/-- The pairs that count for a value. -/
def countIn (pairs : List (Value × Value)) (v : Value) : Nat :=
  (pairs.filter fun p => p.2 = v).countP fun p => p.1 ≠ .null

theorem valueLine_injective (aliasName : String) : Function.Injective (valueLine aliasName) := by
  intro v w h
  simpa [valueLine] using h

theorem pairLine_injective (itemId value : String) :
    Function.Injective (pairLine itemId value) := by
  rintro ⟨i, v⟩ ⟨j, w⟩ h
  simpa [pairLine] using h

theorem record_pairLine {itemId value : String} (hne : itemId ≠ value) (p : Value × Value) :
    (pairLine itemId value p).record itemId = p.1 ∧
      (pairLine itemId value p).record value = p.2 := by
  have hne' : (some value == some itemId) = false := by simpa using hne.symm
  simp [Line.record, Line.cell?, pairLine, List.lookup_cons, hne']

/-- The statement over the rows of the frame that gives each of its rows once. -/
def Frame.once (f : Frame) (outputs : List Sql.Output) (orderBy : List Sql.OrderKey) :
    Sql.Select :=
  { f.statement.select with distinct := true, outputs, orderBy }

/-- A row of the pairs, which the grouped statement selects from. -/
def Frame.pairScope (f : Frame) (p : Value × Value) : Scope :=
  [(f.derived, (pairLine f.itemId f.pairValue p).record)]

theorem cell?_valueLine (aliasName : String) (v : Value) :
    (valueLine aliasName v).cell? aliasName = some (.value v) := List.lookup_cons_self

theorem cell?_countLine {count value : String} (hne : count ≠ value) (n : Nat) (v : Value) :
    (countLine count value n v).cell? count = some (.count n) ∧
      (countLine count value n v).cell? value = some (.value v) := by
  have hne' : (some value == some count) = false := by simpa using hne.symm
  simp [Line.cell?, countLine, List.lookup_cons, hne']

/-- Of one value different pairs have different items. -/
theorem items_of_value {pairs : List (Value × Value)} (hnodup : pairs.Nodup) {v : Value}
    (hnull : ∀ p ∈ pairs, p.1 ≠ .null) : ∃ ids : List Value, ids.Nodup ∧
      (∀ id, id ∈ ids ↔ (id, v) ∈ pairs) ∧ countIn pairs v = ids.length := by
  refine ⟨(pairs.filter fun p => p.2 = v).map Prod.fst, ?_, fun id => ?_, ?_⟩
  · refine (hnodup.filter _).map_on fun p hp p' hp' heq => ?_
    have hvalue := (List.mem_filter.mp hp).2
    have hvalue' := (List.mem_filter.mp hp').2
    exact Prod.ext heq ((of_decide_eq_true hvalue).trans (of_decide_eq_true hvalue').symm)
  · simp
  · rw [countIn, List.length_map, List.countP_eq_length]
    intro p hp
    exact decide_eq_true (hnull p (List.mem_of_mem_filter hp))

section

variable {ops : Operators} {db : Contents} {ms : Mentions} {q : ValueQuery} {f : Frame}

theorem Frame.Fits.ne_pairValue (hs : q.schema.Proper) (hf : f.Fits ops db ms q) :
    f.itemId ≠ f.pairValue ∧ f.count ≠ f.pairValue := by
  obtain ⟨-, hitem, hvalue, -, hcount⟩ := hf.level_pairs hs
  rw [hitem, hvalue, hcount]
  decide

theorem Frame.cell_pairScope (hne : f.itemId ≠ f.pairValue) (p : Value × Value) :
    (f.pairScope p).cell ⟨f.derived, f.itemId⟩ = p.1 ∧
      (f.pairScope p).cell ⟨f.derived, f.pairValue⟩ = p.2 := by
  obtain ⟨hitem, hvalue⟩ := record_pairLine hne p
  exact ⟨(Scope.cell_cons_self ..).trans hitem, (Scope.cell_cons_self ..).trans hvalue⟩

theorem Frame.count_pairScopes (hne : f.itemId ≠ f.pairValue) (pairs : List (Value × Value))
    (v : Value) :
    Group.count ((pairs.map f.pairScope).filter fun σ => σ.cell ⟨f.derived, f.pairValue⟩ = v)
      ⟨f.derived, f.itemId⟩ = countIn pairs v := by
  simp only [Group.count, countIn, List.filter_map, List.countP_map, Function.comp_def,
    Frame.cell_pairScope hne]

variable [LinearOrder Value]

/-- A statement that writes what it reads from an item and a value has some result, and in any
result everything that is read stands once. -/
theorem Frame.Fits.returns_once {α : Type} (hs : q.schema.Proper) (hf : f.Fits ops db ms q)
    (outputs : List Sql.Output) (houtputs : ∀ o ∈ outputs, o.expression.isCount = false)
    (orderBy : List Sql.OrderKey) (read : Group → α) (shown : Value × Value → α)
    (hread : ∀ σ, read [σ] = shown (σ.cell f.anchor, σ.cell f.value)) {write : α → Line}
    (hwrite : Function.Injective write)
    (hline : ∀ g, (f.once outputs orderBy).line g = write (read g)) :
    (∃ lines, (f.once outputs orderBy).Returns ops db f.statement.params lines) ∧
      ∀ lines, (f.once outputs orderBy).Returns ops db f.statement.params lines →
        ∃ ordered : List Group, ordered.Pairwise (Group.InOrder orderBy) ∧
          (ordered.map read).Nodup ∧
          (∀ a, a ∈ ordered.map read ↔ a ∈ (q.occurrences ops db).map shown) ∧
            lines = (ordered.map read).map write := by
  obtain ⟨anchor, hfits, -⟩ := hf.plan
  have hbuilt := hfits.built hf.predicate hf.mentions hf.statement
  obtain ⟨name, aliasName, hsource, -⟩ := hbuilt.source
  obtain ⟨σs, hrows, hoccurrences⟩ :=
    hf.rows? hs (s := ⟨f.once outputs orderBy, f.statement.params⟩) ⟨rfl, rfl, rfl, rfl⟩
  have hsource' : (f.once outputs orderBy).source = some (.table name aliasName) := hsource
  have hgroupBy : (f.once outputs orderBy).groupBy = [] := hbuilt.groupBy
  constructor
  · obtain ⟨ordered, hordered⟩ := Sql.Select.exists_arranges (f.once outputs orderBy)
      ((f.once outputs orderBy).groups σs)
    exact ⟨_, .table hsource' hrows hordered⟩
  · intro lines h
    obtain ⟨σs', ordered, hrows', hordered, rfl⟩ := (Sql.Select.returns_table hsource').mp h
    obtain rfl := Option.some.inj (hrows.symm.trans hrows')
    rw [Sql.Select.groups_of_columns hgroupBy houtputs] at hordered
    obtain ⟨hnodup, hmem, hlines⟩ := hordered.nodup_map rfl read hwrite hline
    refine ⟨ordered, hordered.sorted, hnodup, fun a => ?_, ?_⟩
    · rw [hmem, ← hoccurrences, List.map_map, List.map_map]
      exact iff_of_eq (congrArg (a ∈ ·) (List.map_congr_left fun σ _ => hread σ))
    · exact (Sql.Select.page_of_none hbuilt.limit hbuilt.offset _).trans hlines

/-- The distinct statement gives every value once, in ascending order. -/
theorem Frame.Fits.returns_distinct (hs : q.schema.Proper) (hf : f.Fits ops db ms q) :
    (∃ lines, f.distinct.select.Returns ops db f.distinct.params lines) ∧
      ∀ lines, f.distinct.select.Returns ops db f.distinct.params lines →
        ∃ vs : List Value, vs.Pairwise (· < ·) ∧
          (∀ v, v ∈ vs ↔ v ∈ (q.occurrences ops db).map Prod.snd) ∧
            lines = vs.map (valueLine f.distinct.value) := by
  obtain ⟨hexists, hreturns⟩ := hf.returns_once hs f.distinct.select.outputs
    (List.forall_mem_singleton.mpr rfl) [{ column := f.value }] (fun g => g.value f.value) Prod.snd
    (fun σ => rfl) (valueLine_injective f.distinct.value) fun g => rfl
  refine ⟨hexists, fun lines h => ?_⟩
  obtain ⟨ordered, hsorted, hnodup, hmem, hlines⟩ := hreturns lines h
  exact ⟨_, Group.pairwise_lt hsorted hnodup, hmem, hlines⟩

/-- The statement inside of the grouped one gives every pair of an item and a value once. -/
theorem Frame.Fits.returns_pairs (hs : q.schema.Proper) (hf : f.Fits ops db ms q) :
    (∃ lines, f.pairs.Returns ops db f.grouped.params lines) ∧
      ∀ lines, f.pairs.Returns ops db f.grouped.params lines →
        ∃ pairs : List (Value × Value), pairs.Nodup ∧
          (∀ p, p ∈ pairs ↔ p ∈ q.occurrences ops db) ∧
            lines = pairs.map (pairLine f.itemId f.pairValue) := by
  obtain ⟨hexists, hreturns⟩ := hf.returns_once hs f.pairs.outputs
    (List.forall_mem_cons.mpr ⟨rfl, List.forall_mem_singleton.mpr rfl⟩) f.pairs.orderBy
    (fun g => (g.value f.anchor, g.value f.value)) id (fun σ => rfl)
    (pairLine_injective f.itemId f.pairValue) fun g => rfl
  refine ⟨hexists, fun lines h => ?_⟩
  obtain ⟨ordered, -, hnodup, hmem, hlines⟩ := hreturns lines h
  exact ⟨_, hnodup, fun p => by rw [hmem, List.map_id], hlines⟩

/-- The grouped statement gives every value once, in ascending order, and counts its pairs. -/
theorem Frame.Fits.returns_grouped (hs : q.schema.Proper) (hf : f.Fits ops db ms q) :
    (∃ lines, f.grouped.select.Returns ops db f.grouped.params lines) ∧
      ∀ lines, f.grouped.select.Returns ops db f.grouped.params lines →
        ∃ (pairs : List (Value × Value)) (vs : List Value), pairs.Nodup ∧
          (∀ p, p ∈ pairs ↔ p ∈ q.occurrences ops db) ∧ vs.Pairwise (· < ·) ∧
          (∀ v, v ∈ vs ↔ v ∈ (q.occurrences ops db).map Prod.snd) ∧
            lines = vs.map fun v => countLine f.count f.pairValue (countIn pairs v) v := by
  obtain ⟨⟨inner, hinner⟩, hpairs⟩ := hf.returns_pairs hs
  obtain ⟨hne, -⟩ := hf.ne_pairValue hs
  have hsource : f.grouped.select.source = some (.derived f.pairs f.derived) := rfl
  constructor
  · obtain ⟨ordered, hordered⟩ := Sql.Select.exists_arranges f.grouped.select
      (f.grouped.select.groups (inner.map fun l => [(f.derived, l.record)]))
    exact ⟨_, (Sql.Select.returns_derived hsource rfl rfl).mpr
      ⟨inner, ordered, hinner, hordered, rfl⟩⟩
  · intro lines h
    obtain ⟨inner, ordered, hinner, hordered, rfl⟩ :=
      (Sql.Select.returns_derived hsource rfl rfl).mp h
    obtain ⟨pairs, hnodup, hmem, rfl⟩ := hpairs inner hinner
    have hscopes : ((pairs.map (pairLine f.itemId f.pairValue)).map fun l =>
        [(f.derived, l.record)]) = pairs.map f.pairScope := List.map_map
    rw [hscopes] at hordered
    obtain ⟨hvalues, hmem', hgroup⟩ := hordered.by_column (c := ⟨f.derived, f.pairValue⟩) rfl rfl
    refine ⟨pairs, _, hnodup, hmem, Group.pairwise_lt hordered.sorted hvalues, fun v => ?_, ?_⟩
    · rw [hmem']
      simp only [List.map_map, List.mem_map, Function.comp_apply, (Frame.cell_pairScope hne _).2,
        hmem]
    · rw [Sql.Select.page_of_none rfl rfl, List.map_map]
      refine List.map_congr_left fun g hg => ?_
      have hcount : g.count ⟨f.derived, f.itemId⟩ =
          countIn pairs (g.value ⟨f.derived, f.pairValue⟩) := by
        rw [← Frame.count_pairScopes hne, ← hgroup g hg]
      exact congrArg (fun n => countLine f.count f.pairValue n _) hcount

/-- The groups are the distinct values in their order, each with the number of its items. -/
structure Agree (counts : Value → Value → Prop) (s : DistinctValueStatement)
    (t : GroupedValueStatement) (values groups : List Line) : Prop where
  values : ∃ vs : List Value, vs.Pairwise (· < ·) ∧ (∀ v, v ∈ vs ↔ ∃ id, counts v id) ∧
    values.map (fun l => l.cell? s.value) = vs.map (fun v => some (.value v)) ∧
    groups.map (fun l => l.cell? t.value) = vs.map fun v => some (.value v)
  counts : ∀ l ∈ groups, ∃ (v : Value) (ids : List Value), l.cell? t.value = some (.value v) ∧
    l.cell? t.count = some (.count ids.length) ∧ ids.Nodup ∧ ∀ id, id ∈ ids ↔ counts v id

theorem Frame.Fits.agree (hs : q.schema.Proper) (hf : f.Fits ops db ms q)
    {counts : Value → Value → Prop}
    (hcounts : ∀ v id, (id, v) ∈ q.occurrences ops db ↔ counts v id)
    (hnull : ∀ v id, counts v id → id ≠ .null) {values groups : List Line}
    (hvalues : f.distinct.select.Returns ops db f.distinct.params values)
    (hgroups : f.grouped.select.Returns ops db f.grouped.params groups) :
    Agree counts f.distinct f.grouped values groups := by
  obtain ⟨vs, hsorted, hmem, rfl⟩ := (hf.returns_distinct hs).2 values hvalues
  obtain ⟨pairs, ws, hnodup, hpairs, hsorted', hmem', rfl⟩ :=
    (hf.returns_grouped hs).2 groups hgroups
  obtain rfl := hsorted.eq_of_mem_iff hsorted' fun v => (hmem v).trans (hmem' v).symm
  obtain ⟨-, hne⟩ := hf.ne_pairValue hs
  refine ⟨⟨vs, hsorted, fun v => ?_, ?_, ?_⟩, fun l hl => ?_⟩
  · rw [hmem, List.mem_map]
    constructor
    · rintro ⟨⟨id, v⟩, hp, rfl⟩
      exact ⟨id, (hcounts v id).mp hp⟩
    · rintro ⟨id, hid⟩
      exact ⟨(id, v), (hcounts v id).mpr hid, rfl⟩
  · rw [List.map_map]
    exact List.map_congr_left fun v _ => cell?_valueLine _ v
  · rw [List.map_map]
    exact List.map_congr_left fun v _ => (cell?_countLine hne _ v).2
  · obtain ⟨v, -, rfl⟩ := List.mem_map.mp hl
    have hpair : ∀ w id, (id, w) ∈ pairs ↔ counts w id := fun w id =>
      (hpairs (id, w)).trans (hcounts w id)
    obtain ⟨ids, hids, hmem, hlength⟩ := items_of_value hnodup (v := v) fun p hp =>
      hnull p.2 p.1 ((hpair p.2 p.1).mp hp)
    obtain ⟨hcount, hvalue⟩ := cell?_countLine hne (countIn pairs v) v
    exact ⟨v, ids, hvalue, hlength ▸ hcount, hids, fun id => (hmem id).trans (hpair v id)⟩

end

section

variable {schema : Schema} {options : Options} {path : AttributePath} {necessary : List AspectId}
  {filter : Option Filter} {q : ValueQuery} {ops : Operators} {db : Contents}

theorem Counts.ne_null (hdb : db.Identified ops schema) {target : Attribute}
    (hlookup : schema.lookup path = .ok target) {v id : Value}
    (h : Counts ops db schema target necessary filter v id) : id ≠ .null := by
  obtain ⟨a, ha, -, htarget, -⟩ := Schema.lookup_eq_ok hlookup
  have hholds := h.holds
  unfold Attribute.Holds at hholds
  split at hholds
  · obtain ⟨⟨b, hb, r, hr, rfl⟩, -⟩ := hholds
    exact hdb.aspect_ne_null b (Schema.aspect?_eq_some hb).1 r hr
  · rename_i hbounded
    obtain ⟨r, hr, rfl, -⟩ := hholds
    exact hdb.collection_ne_null a ha target htarget (by simpa using hbounded) r hr

theorem Requested.own (h : q.Requested schema path necessary filter) (hbounded : q.target.bounded) :
    q.target.aspect ∈ q.necessary := (h.necessary _).mpr (.inr ⟨hbounded, rfl⟩)

/-- The occurrences of a query are the items that count for a value. -/
theorem Requested.mem_occurrences (h : q.Requested q.schema path necessary filter) {table : String}
    (hdb : db.Keyed ops (q.schema.withItemTable table)) (v id : Value) :
    (id, v) ∈ (q.withItemTable table).occurrences ops db ↔
      Counts ops db q.schema q.target necessary filter v id := by
  refine (ValueQuery.mem_occurrences (q := q.withItemTable table) hdb h.own).trans ⟨?_, ?_⟩
  · rintro ⟨haspects, hadmits, hholds⟩
    exact ⟨fun a ha => haspects a ((h.necessary a).mpr (.inl ha)), (h.filter ops db id).mp hadmits,
      hholds⟩
  · rintro ⟨haspects, hfilter, hholds⟩
    refine ⟨fun a ha => ?_, (h.filter ops db id).mpr hfilter, hholds⟩
    rcases (h.necessary a).mp ha with ha | ⟨hbounded, rfl⟩
    · exact haspects a ha
    · rw [Attribute.Holds, if_pos hbounded] at hholds
      exact hholds.1

end

section Films

open Primary (filmContents keyed_filmContents)
open Predicate (filmSchema filmFilter)

theorem identified_filmContents : filmContents.Identified .equality filmSchema :=
  ⟨keyed_filmContents.exact, keyed_filmContents.aspect, keyed_filmContents.aspect_ne_null,
    by decide, keyed_filmContents.value⟩

/-- The genres of films, as they are stored. -/
def genreAttribute : Attribute :=
  ⟨"film", "genre", .string, .manyToMany "NM_FILM_GENRE" "V_FILM_GENRE"⟩

theorem counts_genre (v id : Value) :
    Counts .equality filmContents filmSchema genreAttribute ["film"] (some filmFilter) v id ↔
      v ∈ [.text "horror", .text "science fiction"] ∧ id ∈ [.integer 1, .integer 4] := by
  have hrows : ∀ r ∈ filmContents genreAttribute.collectionTable,
      ∀ v ∈ genreAttribute.rowValue? filmContents filmSchema.naming r,
        Filter.truth? .equality filmContents filmSchema ⟨r filmSchema.naming.itemIdColumn,
          stored filmContents filmSchema (r filmSchema.naming.itemIdColumn)⟩ (some filmFilter) =
            .holds →
        v ∈ [.text "horror", .text "science fiction"] ∧
          r filmSchema.naming.itemIdColumn ∈ [.integer 1, .integer 4] := by decide
  have hfound : ∀ v ∈ [Value.text "horror", .text "science fiction"],
      ∀ id ∈ [Value.integer 1, .integer 4],
        (∃ r ∈ filmContents "M_FILM", r filmSchema.naming.itemIdColumn = id) ∧
        Filter.truth? .equality filmContents filmSchema
          ⟨id, stored filmContents filmSchema id⟩ (some filmFilter) = .holds ∧
        ∃ r ∈ filmContents genreAttribute.collectionTable,
          r filmSchema.naming.itemIdColumn = id ∧
            genreAttribute.rowValue? filmContents filmSchema.naming r = some v := by decide
  constructor
  · rintro ⟨-, hfilter, hholds⟩
    rw [Attribute.Holds, if_neg (by decide)] at hholds
    obtain ⟨r, hr, rfl, hvalue⟩ := hholds
    exact hrows r hr v hvalue hfilter
  · rintro ⟨hv, hid⟩
    obtain ⟨hfilm, hfilter, hrow⟩ := hfound v hv id hid
    refine ⟨fun a ha => ?_, hfilter, ?_⟩
    · rw [List.mem_singleton.mp ha]
      exact ⟨_, rfl, hfilm⟩
    · rw [Attribute.Holds, if_neg (by decide)]
      exact hrow

end Films

/-- The groups of a value query are its distinct values in the same order, each of them with the
number of the different items that have it and all necessary aspects and meet the filter. -/
theorem groups_agree_with_values {d : SchemaDefinition} {naming : Naming} {schema : Schema}
    (hschema : Schema.ofDefinition d naming = .ok schema) {options : Options} {path : AttributePath}
    {necessary : List AspectId} {filter : Option Filter} {q : ValueQuery}
    (hq : compile schema options path necessary filter = .ok q) [LinearOrder Value]
    {ops : Operators} {db : Contents} (hdb : db.Identified ops schema) :
    schema.lookup path = .ok q.target ∧
      ∃ s t, q.distinctStatement = .ok s ∧ q.groupedStatement = .ok t ∧
        (∃ values, s.select.Returns ops db s.params values) ∧
        (∃ groups, t.select.Returns ops db t.params groups) ∧
        ∀ values groups, s.select.Returns ops db s.params values →
          t.select.Returns ops db t.params groups →
          Agree (Counts ops db schema q.target necessary filter) s t values groups := by
  have hproper := Schema.proper_of_ofDefinition hschema
  have hcompiled := compiled_of_compile hproper hq
  have hrequested := requested_of_compile hq
  obtain rfl := hcompiled.schema_eq
  obtain ⟨a, ha, -⟩ := Schema.lookup_eq_ok hrequested.lookup
  have hkeyed := hdb.keyed ha
  have hproper' := hproper.withItemTable (hproper.aspects a ha).table
  obtain ⟨hdistinct, hgrouped⟩ := statements_withItemTable hrequested.own a.table
  obtain ⟨f, ms, hs, ht, hf⟩ := (hcompiled.withItemTable a.table).exists_frame hproper' hkeyed
  refine ⟨hrequested.lookup, f.distinct, f.grouped, hdistinct ▸ hs, hgrouped ▸ ht,
    (hf.returns_distinct hproper').1, (hf.returns_grouped hproper').1,
    fun values groups hvalues hgroups => ?_⟩
  exact hf.agree hproper' (hrequested.mem_occurrences hkeyed)
    (fun v id h => h.ne_null hdb hrequested.lookup) hvalues hgroups

open Primary (filmContents) in
open Predicate (films filmSchema filmFilter) in
/-- The films 1 and 4 count for two genres, for one of which film 4 has two rows. The genre of the
film that the filter leaves out is not among the values. -/
theorem groups_agree_with_values_films :
    letI := Value.byRank
    Schema.ofDefinition films {} = .ok filmSchema ∧
      filmContents.Identified .equality filmSchema ∧
      ∃ q, compile filmSchema {} ⟨"film", "genre"⟩ ["film"] (some filmFilter) = .ok q ∧
        (∀ v id, Counts .equality filmContents filmSchema q.target ["film"] (some filmFilter) v id ↔
          v ∈ [.text "horror", .text "science fiction"] ∧ id ∈ [.integer 1, .integer 4]) ∧
        ∃ s t, q.distinctStatement = .ok s ∧ q.groupedStatement = .ok t ∧
          (∃ values, s.select.Returns .equality filmContents s.params values) ∧
          (∃ groups, t.select.Returns .equality filmContents t.params groups) ∧
          ∀ values groups, s.select.Returns .equality filmContents s.params values →
            t.select.Returns .equality filmContents t.params groups →
            Agree (Counts .equality filmContents filmSchema q.target ["film"] (some filmFilter)) s t
              values groups := by
  have hschema : Schema.ofDefinition films {} = .ok filmSchema := rfl
  obtain ⟨q, hq, htarget⟩ : ∃ q, compile filmSchema {} ⟨"film", "genre"⟩ ["film"]
      (some filmFilter) = .ok q ∧ q.target = genreAttribute := ⟨_, rfl, rfl⟩
  let := Value.byRank
  exact ⟨hschema, identified_filmContents, q, hq, htarget ▸ counts_genre,
    (groups_agree_with_values hschema hq identified_filmContents).2⟩

end ValueQuery

end AspectQuery
