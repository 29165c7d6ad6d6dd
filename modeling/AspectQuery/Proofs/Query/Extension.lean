import AspectQuery.Proofs.Query.Building
import AspectQuery.Proofs.Statement.Extension
/-!
# Queries over extended schemas

A query that compiles with a schema compiles with every extension of it, as long as no aspect that
it names in vain gets known, and no attribute is added to what it selects by naming no selection.
All its statements stay the same.
-/

set_option autoImplicit false

namespace AspectQuery

section

variable {s t : Schema} {options : Options}

namespace Predicate

theorem comparing_kept (h : s.ExtendedTo t) {path : AttributePath} {ms : Mentions}
    {test : Attribute → Except QueryError Test} :
    KeptBy (comparing s path ms test) (comparing t path ms test) := by
  unfold comparing about
  rw [h.naming]
  exact (h.find path).bind_left

mutual

theorem ofFilter_kept (h : s.ExtendedTo t) (filter : Filter) (ms : Mentions) :
    KeptBy (ofFilter s options filter ms) (ofFilter t options filter ms) := by
  cases filter with
  | combine op operands => exact (ofFilters_kept h operands ms).bind_left
  | not filter => exact (ofFilter_kept h filter ms).bind_left
  | empty path =>
    unfold ofFilter about
    rw [h.naming]
    exact (h.find path).bind_left
  | relational => exact comparing_kept h
  | like => exact comparing_kept h
  | similarTo => exact comparing_kept h
  | between => exact comparing_kept h
  | among => exact comparing_kept h
  | itemIds => exact .refl _
  | never => exact .refl _

theorem ofFilters_kept (h : s.ExtendedTo t) (filters : List Filter) (ms : Mentions) :
    KeptBy (ofFilters s options filters ms) (ofFilters t options filters ms) := by
  cases filters with
  | nil => exact .refl _
  | cons filter rest =>
    exact (ofFilter_kept h filter ms).bind fun r => (ofFilters_kept h rest r.2).bind_left

end

theorem ofFilter?_kept (h : s.ExtendedTo t) (filter : Option Filter) (ms : Mentions) :
    KeptBy (ofFilter? s options filter ms) (ofFilter? t options filter ms) := by
  cases filter with
  | none => exact .refl _
  | some filter => exact ofFilter_kept h filter ms

end Predicate

theorem Schema.requireAll_kept (h : s.ExtendedTo t) (ids : List AspectId) :
    KeptBy (s.requireAll ids) (t.requireAll ids) := by
  refine KeptBy.foldlM (fun known id => ?_) ids []
  exact h.require_bind fun _ _ _ => .refl _

namespace ItemQuery

/-- The query with another schema. -/
def withSchema (q : ItemQuery) (t : Schema) : ItemQuery := { q with schema := t }

/-- What a request reads of a schema besides what it looks up: which of its optional aspects there
are, and all attributes of its aspects where it selects none. -/
structure Settled (s t : Schema) (r : Request) : Prop where
  optional : ∀ id ∈ r.optional, (t.aspect? id).isSome = (s.aspect? id).isSome
  attributes : r.select = [] → ∀ id ∈ r.necessary ++ r.optional,
    (t.aspect? id).map Aspect.attributes = (s.aspect? id).map Aspect.attributes

theorem optionalAspects_settled {r : Request} (hr : Settled s t r) (necessary : List AspectId) :
    optionalAspects t necessary r.optional = optionalAspects s necessary r.optional := by
  rw [optionalAspects_eq, optionalAspects_eq, List.filter_congr hr.optional]

theorem allAttributes_congr {ids : List AspectId} (h : ∀ id ∈ ids,
    (t.aspect? id).map Aspect.attributes = (s.aspect? id).map Aspect.attributes) :
    allAttributes t ids = allAttributes s ids := by
  have heq : ∀ s : Schema, allAttributes s ids =
      (ids.filterMap fun id => (s.aspect? id).map Aspect.attributes).flatten := fun s => by
    rw [allAttributes, List.flatMap, List.map_filterMap]
  rw [heq, heq, List.filterMap_congr h]

theorem selection_kept (h : s.ExtendedTo t) {r : Request} (hr : Settled s t r)
    {necessary : List AspectId} (hnecessary : s.requireAll r.necessary = .ok necessary) :
    KeptBy (selection s necessary (optionalAspects s necessary r.optional) r.select)
      (selection t necessary (optionalAspects s necessary r.optional) r.select) := by
  unfold selection
  split
  · rename_i hselect
    rw [allAttributes_congr fun id hid => hr.attributes (List.isEmpty_iff.mp hselect) id ?_]
    · exact .refl _
    · rcases List.mem_append.mp hid with hid | hid
      · exact List.mem_append_left _ ((Schema.mem_requireAll hnecessary id).mp hid)
      · rw [optionalAspects_eq, List.mem_eraseDups] at hid
        exact List.mem_append_right _ (List.mem_of_mem_filter (List.mem_of_mem_filter hid))
  · exact (KeptBy.mapM h.find r.select).bind_left

theorem sortMentions_kept (h : s.ExtendedTo t) (keys : List SortKey) (ms : Mentions) :
    KeptBy (sortMentions s keys ms) (sortMentions t keys ms) :=
  (KeptBy.mapM (fun k => h.find k.path) keys).bind_left

/-- The query is the same but for its schema. -/
theorem ofRequest_withSchema (h : s.ExtendedTo t) {r : Request} (hr : Settled s t r) {q : ItemQuery}
    (hq : ofRequest s options r = .ok q) : ofRequest t options r = .ok (q.withSchema t) := by
  obtain ⟨targets, ms, hq⟩ := ofRequest_eq_ok_iff.mp hq
  have hselection := selection_kept h hr hq.necessary _ hq.selection
  rw [← optionalAspects_settled hr] at hselection
  exact ofRequest_eq_ok_iff.mpr ⟨targets, ms, { hq with
    schema_eq := rfl
    necessary := Schema.requireAll_kept h _ _ hq.necessary
    selection := hselection
    predicate := Predicate.ofFilter?_kept h _ _ _ hq.predicate
    sort := sortMentions_kept h _ _ _ hq.sort }⟩

variable {q : ItemQuery}

theorem primaryStatement_withSchema (h : q.schema.ExtendedTo t) :
    KeptBy q.primaryStatement (q.withSchema t).primaryStatement :=
  (Primary.items_kept h q.primary q.predicate {} q.options.dialect).bind_left

theorem collectionStatements_withSchema (h : q.schema.ExtendedTo t) :
    KeptBy q.collectionStatements (q.withSchema t).collectionStatements := by
  refine KeptBy.mapM (fun m => ?_) q.collections
  exact (Collection.correlated_kept h q.predicate m.target q.necessary {}).bind_left

/-- The first schema writes all statements, so those of the second one are no others. -/
theorem Compiled.statements_withSchema (hs : s.Proper) (hq : q.Compiled s) (h : s.ExtendedTo t) :
    ∃ p cs, (q.primaryStatement = .ok p ∧ q.collectionStatements = .ok cs) ∧
      (q.withSchema t).primaryStatement = .ok p ∧
      (q.withSchema t).collectionStatements = .ok cs := by
  obtain ⟨p, hp⟩ := hq.primaryStatement_total hs
  obtain ⟨cs, hcs⟩ := hq.collectionStatements_total hs
  have hschema : q.schema.ExtendedTo t := hq.schema_eq ▸ h
  exact ⟨p, cs, ⟨hp, hcs⟩, primaryStatement_withSchema hschema p hp,
    collectionStatements_withSchema hschema cs hcs⟩

/-- The statements of both queries are the same, also those for one item, and the queries do the
same with every store. -/
structure SameStatements (q r : ItemQuery) : Prop where
  explain : ∃ es, q.explain = .ok es ∧ r.explain = .ok es
  explainSingle : ∀ id, ∃ es, (q.only id).explain = .ok es ∧ (r.only id).explain = .ok es
  execute : ∀ {σ : Type} (store : Store σ), r.execute store = q.execute store
  executeSingle : ∀ id {σ : Type} (store : Store σ),
    r.executeSingle id store = q.executeSingle id store

theorem Compiled.sameStatements_withSchema (hs : s.Proper) (hq : q.Compiled s)
    (h : s.ExtendedTo t) : q.SameStatements (q.withSchema t) := by
  have hsingle := fun id => (hq.only id).statements_withSchema hs h
  obtain ⟨p, cs, ⟨hp, hcs⟩, hp', hcs'⟩ := hq.statements_withSchema hs h
  refine ⟨⟨_, explain_eq_ok hp hcs, explain_eq_ok hp' hcs'⟩, fun id => ?_, fun store => ?_,
    fun id _ store => ?_⟩
  · obtain ⟨p, cs, ⟨hp, hcs⟩, hp', hcs'⟩ := hsingle id
    exact ⟨_, explain_eq_ok hp hcs, explain_eq_ok hp' hcs'⟩
  · rw [execute_eq hp hcs, execute_eq hp' hcs']
    rfl
  · obtain ⟨p, cs, ⟨hp, hcs⟩, hp', hcs'⟩ := hsingle id
    rw [executeSingle_eq hp hcs, executeSingle_eq (q := q.withSchema t) hp' hcs']
    rfl

end ItemQuery

namespace ValueQuery

/-- The query with another schema. -/
def withSchema (q : ValueQuery) (t : Schema) : ValueQuery := { q with schema := t }

theorem compile_withSchema (h : s.ExtendedTo t) {path : AttributePath} {necessary : List AspectId}
    {filter : Option Filter} {q : ValueQuery}
    (hq : compile s options path necessary filter = .ok q) :
    compile t options path necessary filter = .ok (q.withSchema t) := by
  obtain ⟨known, hknown, hq⟩ := compile_eq_ok_iff.mp hq
  exact compile_eq_ok_iff.mpr ⟨known, Schema.requireAll_kept h _ _ hknown, { hq with
    schema_eq := rfl
    find := h.find _ _ hq.find
    predicate := Predicate.ofFilter?_kept h _ _ _ hq.predicate }⟩

variable {q : ValueQuery}

theorem distinctStatement_withSchema (h : q.schema.ExtendedTo t) :
    KeptBy q.distinctStatement (q.withSchema t).distinctStatement := by
  have htarget : (q.withSchema t).target = q.target := rfl
  cases hbounded : q.target.bounded with
  | true =>
    rw [distinctStatement_of_bounded hbounded, distinctStatement_of_bounded (htarget ▸ hbounded)]
    exact (Primary.distinct_kept h q.primary q.predicate {}).bind_left
  | false =>
    rw [distinctStatement_of_collection hbounded,
      distinctStatement_of_collection (htarget ▸ hbounded)]
    exact (Collection.distinct_kept h q.predicate q.target q.necessary {}).bind_left

theorem groupedStatement_withSchema (h : q.schema.ExtendedTo t) :
    KeptBy q.groupedStatement (q.withSchema t).groupedStatement := by
  have htarget : (q.withSchema t).target = q.target := rfl
  cases hbounded : q.target.bounded with
  | true =>
    rw [groupedStatement_of_bounded hbounded, groupedStatement_of_bounded (htarget ▸ hbounded)]
    exact (Primary.grouped_kept h q.primary q.predicate {}).bind_left
  | false =>
    rw [groupedStatement_of_collection hbounded,
      groupedStatement_of_collection (htarget ▸ hbounded)]
    exact (Collection.grouped_kept h q.predicate q.target q.necessary {}).bind_left

/-- Both statements of the queries are the same, and the queries do the same with every store. -/
structure SameStatements (q r : ValueQuery) : Prop where
  explainDistinct : ∃ es, q.explainDistinct = .ok es ∧ r.explainDistinct = .ok es
  explainGrouped : ∃ es, q.explainGrouped = .ok es ∧ r.explainGrouped = .ok es
  executeDistinct : ∀ {σ : Type} (store : Store σ),
    r.executeDistinct store = q.executeDistinct store
  executeGrouped : ∀ {σ : Type} (store : Store σ), r.executeGrouped store = q.executeGrouped store

theorem Compiled.sameStatements_withSchema (hs : s.Proper) (hq : q.Compiled s)
    (h : s.ExtendedTo t) : q.SameStatements (q.withSchema t) := by
  have hschema : q.schema.ExtendedTo t := hq.schema_eq ▸ h
  obtain ⟨p, hp⟩ := hq.distinctStatement_total hs
  obtain ⟨g, hg⟩ := hq.groupedStatement_total hs
  have hp' := distinctStatement_withSchema hschema p hp
  have hg' := groupedStatement_withSchema hschema g hg
  refine ⟨⟨_, bind_eq_ok.mpr ⟨p, hp, rfl⟩, bind_eq_ok.mpr ⟨p, hp', rfl⟩⟩,
    ⟨_, bind_eq_ok.mpr ⟨g, hg, rfl⟩, bind_eq_ok.mpr ⟨g, hg', rfl⟩⟩, fun store => ?_,
    fun store => ?_⟩
  · rw [executeDistinct_eq store hp, executeDistinct_eq store hp']
    rfl
  · rw [executeGrouped_eq store hg, executeGrouped_eq store hg']
    rfl

end ValueQuery

end

/-- What a request of all attributes and of optional aspects asks of an extended definition. -/
structure Request.Unaffected (r : Request) (d d' : SchemaDefinition) : Prop where
  /-- No optional aspect gets known. -/
  optional : ∀ id ∈ r.optional, d.aspect? id = none → d'.aspect? id = none
  /-- Without a selection, no attributes are added to the aspects. -/
  attributes : r.select ≠ [] ∨ ∀ id ∈ r.necessary ++ r.optional,
    (d'.aspect? id).map AspectDefinition.attributes =
      (d.aspect? id).map AspectDefinition.attributes

theorem ItemQuery.settled_of_unaffected {d d' : SchemaDefinition} {n : Naming} {s t : Schema}
    (hd : d.ExtendedTo d') (hs : Schema.ofDefinition d n = .ok s)
    (ht : Schema.ofDefinition d' n = .ok t) {r : Request} (hr : r.Unaffected d d') :
    Settled s t r := by
  refine ⟨fun id hid => ?_, fun hselect id hid => ?_⟩
  · cases he : d.aspect? id with
    | none => simp [Schema.aspect?_eq_map hs, Schema.aspect?_eq_map ht, he, hr.optional id hid he]
    | some e =>
      have ha : s.aspect? id = some (e.defined n) := by rw [Schema.aspect?_eq_map hs, he]; rfl
      obtain ⟨b, hb, -⟩ := (Schema.extendedTo_of_ofDefinition hd hs ht).require id _
        (Schema.require_eq_ok.mpr ha)
      rw [ha, Schema.require_eq_ok.mp hb]
      rfl
  · rw [Schema.attributes_aspect? hs, Schema.attributes_aspect? ht,
      hr.attributes.resolve_left (· hselect) id hid]

/-- Every query that compiles has the same statements when the definition is extended. -/
theorem extension_keeps_queries {d d' : SchemaDefinition} {naming : Naming} {s t : Schema}
    (hd : d.ExtendedTo d') (hs : Schema.ofDefinition d naming = .ok s)
    (ht : Schema.ofDefinition d' naming = .ok t) (options : Options) :
    (∀ request q, ItemQuery.ofRequest s options request = .ok q → request.Unaffected d d' →
      ∃ r, ItemQuery.ofRequest t options request = .ok r ∧ q.SameStatements r) ∧
    ∀ path necessary filter q, ValueQuery.compile s options path necessary filter = .ok q →
      ∃ r, ValueQuery.compile t options path necessary filter = .ok r ∧ q.SameStatements r := by
  have hproper := Schema.proper_of_ofDefinition hs
  have hext := Schema.extendedTo_of_ofDefinition hd hs ht
  constructor
  · intro request q hq hrequest
    have hsettled := ItemQuery.settled_of_unaffected hd hs ht hrequest
    exact ⟨q.withSchema t, ItemQuery.ofRequest_withSchema hext hsettled hq,
      (ItemQuery.compiled_ofRequest hproper hq).sameStatements_withSchema hproper hext⟩
  · intro path necessary filter q hq
    exact ⟨q.withSchema t, ValueQuery.compile_withSchema hext hq,
      (ValueQuery.compiled_of_compile hproper hq).sameStatements_withSchema hproper hext⟩

/-- Films have a year between their title and their genres. -/
def filmWithYear : AspectDefinition where
  id := "film"
  attributes := [
    { name := "title", cardinality := .inline, valueType := .string },
    { name := "year", cardinality := .inline, valueType := .integer },
    { name := "genre", cardinality := .manyToMany, valueType := .string }]

/-- Books come before the films. -/
def booksAndFilms : SchemaDefinition where
  aspects := [
    { id := "book"
      attributes := [{ name := "title", cardinality := .inline, valueType := .string }] },
    filmWithYear]

open Predicate (films filmSchema filmFilter) in
theorem extension_keeps_queries_films :
    let request : Request := {
      necessary := ["film"]
      optional := ["song"]
      select := [⟨"film", "title"⟩, ⟨"film", "genre"⟩]
      filter := some filmFilter }
    films.ExtendedTo booksAndFilms ∧ request.Unaffected films booksAndFilms ∧
      Schema.ofDefinition films {} = .ok filmSchema ∧
      ∃ t, Schema.ofDefinition booksAndFilms {} = .ok t ∧
        (∃ q r, ItemQuery.ofRequest filmSchema {} request = .ok q ∧
          ItemQuery.ofRequest t {} request = .ok r ∧ q.SameStatements r) ∧
        ∃ q r, ValueQuery.compile filmSchema {} ⟨"film", "genre"⟩ [] (some filmFilter) = .ok q ∧
          ValueQuery.compile t {} ⟨"film", "genre"⟩ [] (some filmFilter) = .ok r ∧
          q.SameStatements r := by
  intro request
  have hfilm : List.Forall₂ AspectDefinition.ExtendedTo films.aspects [filmWithYear] :=
    .cons ⟨rfl, rfl, rfl, .cons_cons _ (.cons _ (.cons_cons _ .slnil))⟩ .nil
  have hd : films.ExtendedTo booksAndFilms := ⟨[filmWithYear], [_], hfilm, .swap _ _ []⟩
  have hrequest : request.Unaffected films booksAndFilms := by
    refine ⟨fun id hid _ => ?_, .inl (List.cons_ne_nil _ _)⟩
    rw [List.mem_singleton.mp hid]
    rfl
  have hs : Schema.ofDefinition films {} = .ok filmSchema := rfl
  obtain ⟨t, ht⟩ : ∃ t, Schema.ofDefinition booksAndFilms {} = .ok t := ⟨_, rfl⟩
  obtain ⟨hitems, hvalues⟩ := extension_keeps_queries hd hs ht {}
  obtain ⟨q, hq⟩ : ∃ q, ItemQuery.ofRequest filmSchema {} request = .ok q := ⟨_, rfl⟩
  obtain ⟨v, hv⟩ : ∃ v, ValueQuery.compile filmSchema {} ⟨"film", "genre"⟩ [] (some filmFilter) =
    .ok v := ⟨_, rfl⟩
  obtain ⟨r, hr, hsame⟩ := hitems request q hq hrequest
  obtain ⟨w, hw, hsame'⟩ := hvalues _ _ _ v hv
  exact ⟨hd, hrequest, hs, t, ht, ⟨q, r, hq, hr, hsame⟩, v, w, hv, hw, hsame'⟩

end AspectQuery
