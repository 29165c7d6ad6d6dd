import AspectQuery.Proofs.Predicate.Dropping
import AspectQuery.Proofs.Query.Agreement
import AspectQuery.Proofs.Query.Hydration
import AspectQuery.Proofs.Query.Session
import AspectQuery.Proofs.Statement.Values
/-!
# Compiled queries can be run

Once a query is compiled, all its statements can be written, and whatever it refers to by a number
is there. What goes wrong from then on is the fault of the store or of the rows that it answers.
-/

set_option autoImplicit false

namespace AspectQuery

/-- The store or its rows are at fault, and not the query. -/
def QueryError.fromStore : QueryError → Bool
  | .store _ => true
  | .decode _ _ => true
  | _ => false

/-- Only the store and its rows are at fault for what goes wrong. -/
abbrev FailsByStore {α : Type} (x : Except QueryError α) : Prop := FailsWith (·.fromStore) x

theorem failsByStore_resultOf {σ α β : Type} {read : α → Except QueryError β}
    (h : ∀ a, FailsByStore (read a)) (f : σ → Except StoreError α × σ) (s : σ) :
    FailsByStore (resultOf read f s).1 := by
  unfold resultOf
  cases (f s).1 with
  | error e => exact .error rfl
  | ok a => exact h a

namespace Row

variable (r : Row) (column : String)

theorem failsByStore_cell : FailsByStore (r.cell column) := by
  unfold cell
  cases r.require column with
  | error e => exact .error rfl
  | ok v => exact .ok v

theorem failsByStore_itemId : FailsByStore (r.itemId column) := by
  refine (r.failsByStore_cell column).bind fun v _ => ?_
  split
  · exact .ok _
  · exact .error rfl
  · exact .error rfl

theorem failsByStore_attributeValue (target : Attribute) :
    FailsByStore (r.attributeValue target column) := by
  refine (r.failsByStore_cell column).bind fun v _ => ?_
  split
  · exact .ok _
  · exact .error rfl

theorem failsByStore_count : FailsByStore (r.count column) := by
  refine (r.failsByStore_cell column).bind fun v _ => ?_
  split
  · split
    · exact .ok _
    · exact .error rfl
  · exact .error rfl

end Row

namespace ItemQuery

theorem failsByStore_collectValues (ms : List Mention) (ss : List CorrelatedStatement)
    (results : List (List Row)) : FailsByStore (collectValues ms ss results) := by
  rw [collectValues_eq_mapM]
  refine .mapM (fun e => ?_) _
  have hrows : FailsByStore (ItemValues.ofRows e.1.target e.2.1 e.2.2) := by
    refine .mapM (fun row => ?_) e.2.2
    exact (row.failsByStore_itemId e.2.1.itemId).bind fun id _ =>
      (row.failsByStore_attributeValue e.2.1.value e.1.target).bind fun v _ => .ok (id, v)
  exact hrows.bind fun values _ => .ok (e.1, values)

theorem failsByStore_hydrateRow (s : ItemStatement) (main : List Mention)
    (values : List (Mention × ItemValues)) (id : ItemId) (row : Row) :
    FailsByStore (hydrateRow s main values id row) := by
  have hpresent : ∀ item, FailsByStore (presentAspects row s.presence item) := by
    intro item
    refine .foldlM (fun item e => ?_) s.presence item
    exact (row.failsByStore_cell e.2).bind fun v _ => .ok _
  have hload : ∀ item m, FailsByStore (loadMain row s.attributes item m) := by
    intro item m
    unfold loadMain
    split
    · split
      · exact .ok item
      · exact (row.failsByStore_attributeValue _ m.target).bind fun v _ => .ok _
    · exact .ok item
  exact (hpresent _).bind fun item _ => (FailsWith.foldlM hload main item).bind fun _ _ => .ok _

theorem failsByStore_hydrateRows (s : ItemStatement) (main : List Mention)
    (values : List (Mention × ItemValues)) (seen : List ItemId) (rows : List Row) :
    FailsByStore (hydrateRows s main values seen rows) := by
  induction rows generalizing seen with
  | nil => exact .ok []
  | cons row rest ih =>
    refine (row.failsByStore_itemId s.itemId).bind fun id _ => ?_
    split
    · exact ih seen
    · exact (failsByStore_hydrateRow s main values id row).bind fun item _ =>
        (ih (id :: seen)).bind fun items _ => .ok (item :: items)

theorem failsByStore_hydrate (q : ItemQuery) (s : ItemStatement) (ss : List CorrelatedStatement)
    (rows : List Row) (results : List (List Row)) : FailsByStore (q.hydrate s ss rows results) :=
  (failsByStore_collectValues q.collections ss results).bind fun values _ =>
    failsByStore_hydrateRows s q.main values [] rows

section

variable {schema : Schema} {options : Options} {q : ItemQuery}

/-- The mentions of a query are those of its selection, of its filter and of its order, one after
another. -/
structure Collects (q : ItemQuery) (selected filtered : Mentions) : Prop where
  main : q.main = selected.toList.filter fun m => m.target.bounded
  collections : q.collections = selected.toList.filter fun m => !m.target.bounded
  filter : selected.Extends filtered
  sort : q.mentions.toList = filtered.toList ++ q.sort.map Prod.fst

theorem exists_collects (hs : schema.Proper) {request : Request}
    (h : ofRequest schema options request = .ok q) :
    ∃ selected filtered, q.Collects selected filtered ∧ q.predicate.Compiled schema q.mentions ∧
      Rendering.ofFilter? schema options request.filter selected =
        .ok (q.predicate.rendering, filtered) := by
  obtain ⟨targets, ms, h⟩ := ofRequest_eq_ok_iff.mp h
  obtain ⟨sorted, hsorted, hsort, hmentions⟩ := sortMentions_eq_ok_iff.mp h.sort
  obtain ⟨hcompiled, hextends⟩ := Predicate.compiled_ofFilter? hs h.predicate
  have hselected : (({} : Mentions).addAll targets).2.toList = (({} : Mentions).addAll targets).1 :=
    Mentions.toList_addAll targets {}
  have hlength : (ms.addAll sorted).1.length ≤ (request.sort.map SortKey.direction).length := by
    rw [Mentions.length_addAll, length_of_mapM hsorted, List.length_map]
  refine ⟨_, ms, ⟨?_, ?_, hextends, ?_⟩, ?_, ?_⟩
  · rw [hselected, h.main]
  · rw [hselected, h.collections]
  · rw [← hmentions, Mentions.toList_addAll, ← hsort, List.map_fst_zip hlength]
  · exact hmentions ▸ hcompiled.mono (Mentions.extends_addAll sorted ms)
  · rw [Rendering.ofFilter?_eq, h.predicate]
    rfl

/-- Every mention of the selection and of the order is there under its number. -/
theorem Collects.references {selected filtered : Mentions} (h : q.Collects selected filtered) :
    ∀ m ∈ q.main ++ q.collections ++ q.sort.map Prod.fst, q.mentions.get? m.index = some m := by
  intro m hm
  refine Mentions.mem_toList.mp (h.sort ▸ List.mem_append.mpr ?_)
  rcases List.mem_append.mp hm with hm | hm
  · have hselected : m ∈ selected.toList := by
      rw [h.main, h.collections] at hm
      rcases List.mem_append.mp hm with hm | hm
      · exact List.mem_of_mem_filter hm
      · exact List.mem_of_mem_filter hm
    have hget := Mentions.get?_of_extends h.filter (Mentions.mem_toList.mp hselected)
    exact .inl (Mentions.mem_toList.mpr hget)
  · exact .inr hm

/-- A query with a predicate in writing which refers to nothing that is not among its mentions, and
whose statements can all be written. -/
structure Builds (q : ItemQuery) (w : Rendering) : Prop where
  references : ∀ m ∈ q.main ++ q.collections ++ q.sort.map Prod.fst,
    q.mentions.get? m.index = some m
  predicate : w.Refers q.mentions q.predicate
  primary : ∃ s, q.primaryStatement = .ok s
  collections : ∃ ss, q.collectionStatements = .ok ss
  explain : ∃ es, q.explain = .ok es

theorem Compiled.primaryStatement_total (hs : schema.Proper) (h : q.Compiled schema) :
    ∃ s, q.primaryStatement = .ok s := by
  obtain ⟨ops, db, hdb⟩ := exists_keyed schema
  obtain ⟨f, s, -, hs, -⟩ := agrees_of_compiled hs hdb h
  exact ⟨s, hs⟩

theorem Compiled.collectionStatements_total (hs : schema.Proper) (h : q.Compiled schema) :
    ∃ ss, q.collectionStatements = .ok ss := by
  obtain ⟨ops, db, hdb⟩ := exists_keyed schema
  obtain ⟨f, s, -, -, hcollections⟩ := agrees_of_compiled hs hdb h
  refine mapM_total fun m hm => ?_
  obtain ⟨g, t, -, ht, -⟩ := hcollections m hm
  exact ⟨t, ht⟩

theorem explain_eq_ok {s : ItemStatement} {ss : List CorrelatedStatement}
    (hs : q.primaryStatement = .ok s) (hss : q.collectionStatements = .ok ss) :
    q.explain = .ok ((q.collections.zip ss).map
      (fun e => ⟨collectionLabel e.1, e.2.bound q.options.dialect⟩) ++
        [⟨primaryLabel, s.bound q.options.dialect⟩]) := by
  rw [explain, hss, hs]
  rfl

theorem Compiled.builds (hs : schema.Proper) (h : q.Compiled schema)
    (hreferences : ∀ m ∈ q.main ++ q.collections ++ q.sort.map Prod.fst,
      q.mentions.get? m.index = some m)
    (hpredicate : q.predicate.Compiled schema q.mentions) : q.Builds q.predicate.rendering := by
  obtain ⟨s, hprimary⟩ := h.primaryStatement_total hs
  obtain ⟨ss, hcollections⟩ := h.collectionStatements_total hs
  exact ⟨hreferences, Predicate.refers_rendering fun m hm => (hpredicate.known hm).get?,
    ⟨s, hprimary⟩, ⟨ss, hcollections⟩, ⟨_, explain_eq_ok hprimary hcollections⟩⟩

/-- The restriction to one item mentions nothing. -/
theorem exists_only {request : Request} (h : ofRequest schema options request = .ok q)
    (id : ItemId) : ∃ single,
      Rendering.ofFilter schema options (.itemIds [id]) q.mentions = .ok (single, q.mentions) ∧
        (q.only id).predicate.rendering = q.predicate.rendering.conjoin single := by
  obtain ⟨targets, ms, h⟩ := ofRequest_eq_ok_iff.mp h
  refine ⟨(⟨some (.itemIds (q.options.chunks [id]))⟩ : Predicate).rendering, ?_,
    Predicate.rendering_conjoin _ _⟩
  rw [Rendering.ofFilter_eq, h.options_eq]
  rfl

theorem Compiled.failsByStore_execute (hs : schema.Proper) (h : q.Compiled schema) {σ : Type}
    (store : Store σ) (t : σ) : FailsByStore (q.execute store t).1 := by
  obtain ⟨s, hprimary⟩ := h.primaryStatement_total hs
  obtain ⟨ss, hcollections⟩ := h.collectionStatements_total hs
  rw [execute_eq hprimary hcollections]
  exact failsByStore_resultOf (fun _ => failsByStore_hydrate q s ss _ _) _ t

theorem Compiled.failsByStore_executeSingle (hs : schema.Proper) (h : q.Compiled schema)
    (id : ItemId) {σ : Type} (store : Store σ) (t : σ) :
    FailsByStore (q.executeSingle id store t).1 := by
  obtain ⟨s, hprimary⟩ := (h.only id).primaryStatement_total hs
  obtain ⟨ss, hcollections⟩ := (h.only id).collectionStatements_total hs
  rw [executeSingle_eq hprimary hcollections]
  refine failsByStore_resultOf (fun r => ?_) _ t
  cases r with
  | none => exact .ok none
  | some r => exact (failsByStore_hydrate (q.only id) s ss r.1 r.2).map List.head?

end

end ItemQuery

namespace ValueQuery

/-- A query with a predicate in writing which refers to nothing that is not among its mentions, and
whose statements can all be written. -/
structure Builds (q : ValueQuery) (w : Rendering) : Prop where
  subject : q.mentions.get? q.subject.index = some q.subject
  predicate : w.Refers q.mentions q.predicate
  distinct : ∃ s, q.distinctStatement = .ok s
  grouped : ∃ s, q.groupedStatement = .ok s
  explainDistinct : ∃ es, q.explainDistinct = .ok es
  explainGrouped : ∃ es, q.explainGrouped = .ok es

section

variable {schema : Schema} {options : Options} {q : ValueQuery}

theorem valueAlias_of_lookup {attributes : List (Nat × String)} {a : String}
    (h : attributes.lookup q.subject.index = some a) : q.valueAlias attributes = .ok a := by
  simp only [valueAlias, h]

theorem distinctStatement_of_bounded (h : q.target.bounded = true) : q.distinctStatement =
    q.primary.distinct q.schema q.predicate {} >>= fun r =>
      q.valueAlias r.1.attributes >>= fun value => pure { r.1 with value } := by
  unfold distinctStatement
  exact if_pos h

theorem distinctStatement_of_collection (h : q.target.bounded = false) : q.distinctStatement =
    Collection.distinct q.schema q.predicate q.target q.necessary {} >>= fun r => pure r.1 := by
  unfold distinctStatement
  exact if_neg (by simp [h])

theorem groupedStatement_of_bounded (h : q.target.bounded = true) : q.groupedStatement =
    q.primary.grouped q.schema q.predicate {} >>= fun r =>
      q.valueAlias r.1.attributes >>= fun value => pure { r.1 with value } := by
  unfold groupedStatement
  exact if_pos h

theorem groupedStatement_of_collection (h : q.target.bounded = false) : q.groupedStatement =
    Collection.grouped q.schema q.predicate q.target q.necessary {} >>= fun r => pure r.1 := by
  unfold groupedStatement
  exact if_neg (by simp [h])

theorem Compiled.distinctStatement_total (hs : schema.Proper) (h : q.Compiled schema) :
    ∃ s, q.distinctStatement = .ok s := by
  unfold distinctStatement
  rw [h.schema_eq]
  split
  · rename_i hbounded
    obtain ⟨ms, hknown⟩ := h.primary hbounded
    obtain ⟨s, aliases, hstatement, hselect⟩ := Primary.distinct_total hknown hs Aliases.sound_empty
    obtain ⟨a, ha⟩ := hselect q.subject List.mem_cons_self
    exact ⟨_, bind_eq_ok.mpr ⟨_, hstatement, bind_eq_ok.mpr ⟨a, valueAlias_of_lookup ha, rfl⟩⟩⟩
  · rename_i hbounded
    obtain ⟨ms, hknown⟩ := h.collection (by simpa using hbounded)
    obtain ⟨r, hr⟩ := Collection.distinct_total hknown hs Aliases.sound_empty
    exact ⟨r.1, bind_eq_ok.mpr ⟨r, hr, rfl⟩⟩

theorem Compiled.groupedStatement_total (hs : schema.Proper) (h : q.Compiled schema) :
    ∃ s, q.groupedStatement = .ok s := by
  unfold groupedStatement
  rw [h.schema_eq]
  split
  · rename_i hbounded
    obtain ⟨ms, hknown⟩ := h.primary hbounded
    obtain ⟨s, aliases, hstatement, hselect⟩ := Primary.grouped_total hknown hs Aliases.sound_empty
    obtain ⟨a, ha⟩ := hselect q.subject List.mem_cons_self
    exact ⟨_, bind_eq_ok.mpr ⟨_, hstatement, bind_eq_ok.mpr ⟨a, valueAlias_of_lookup ha, rfl⟩⟩⟩
  · rename_i hbounded
    obtain ⟨ms, hknown⟩ := h.collection (by simpa using hbounded)
    obtain ⟨r, hr⟩ := Collection.grouped_total hknown hs Aliases.sound_empty
    exact ⟨r.1, bind_eq_ok.mpr ⟨r, hr, rfl⟩⟩

/-- The subject is mentioned first, and then what the filter mentions. -/
theorem builds_of_compile (hs : schema.Proper) {path : AttributePath} {necessary : List AspectId}
    {filter : Option Filter} (h : compile schema options path necessary filter = .ok q) :
    Rendering.ofFilter? schema options filter (({} : Mentions).add q.target).2 =
      .ok (q.predicate.rendering, q.mentions) ∧ q.Builds q.predicate.rendering := by
  have hcompiled := compiled_of_compile hs h
  obtain ⟨s, hdistinct⟩ := hcompiled.distinctStatement_total hs
  obtain ⟨t, hgrouped⟩ := hcompiled.groupedStatement_total hs
  obtain ⟨known, -, h⟩ := compile_eq_ok_iff.mp h
  obtain ⟨hpredicate, hextends⟩ := Predicate.compiled_ofFilter? hs h.predicate
  refine ⟨by rw [Rendering.ofFilter?_eq, h.predicate]; rfl, ?_,
    Predicate.refers_rendering fun m hm => (hpredicate.known hm).get?, ⟨s, hdistinct⟩,
    ⟨t, hgrouped⟩, ⟨_, bind_eq_ok.mpr ⟨s, hdistinct, rfl⟩⟩,
    ⟨_, bind_eq_ok.mpr ⟨t, hgrouped, rfl⟩⟩⟩
  exact h.subject ▸ Mentions.get?_of_extends hextends (Mentions.get?_add_self {} q.target)

theorem failsByStore_readGroup (q : ValueQuery) (s : GroupedValueStatement) (row : Row) :
    FailsByStore (q.readGroup s row) :=
  (row.failsByStore_attributeValue s.value q.target).bind fun v _ =>
    (row.failsByStore_count s.count).bind fun n _ => .ok (ValueGroup.mk v n)

theorem Compiled.failsByStore_executeDistinct (hs : schema.Proper) (h : q.Compiled schema)
    {σ : Type} (store : Store σ) (t : σ) : FailsByStore (q.executeDistinct store t).1 := by
  obtain ⟨s, hdistinct⟩ := h.distinctStatement_total hs
  rw [executeDistinct_eq store hdistinct]
  exact failsByStore_resultOf
    (fun rows => .mapM (fun row => row.failsByStore_attributeValue s.value q.target) rows) _ t

theorem Compiled.failsByStore_executeGrouped (hs : schema.Proper) (h : q.Compiled schema)
    {σ : Type} (store : Store σ) (t : σ) : FailsByStore (q.executeGrouped store t).1 := by
  obtain ⟨s, hgrouped⟩ := h.groupedStatement_total hs
  rw [executeGrouped_eq store hgrouped]
  exact failsByStore_resultOf (fun rows => .mapM (q.failsByStore_readGroup s) rows) _ t

end

end ValueQuery

/-- Every query that compiles can be run: whatever it and its predicate in writing refer to is among
its mentions and values, its statements and those for one item can be written, and only the store
and its rows are at fault for what goes wrong from then on. -/
theorem compiled_queries_build {d : SchemaDefinition} {naming : Naming} {schema : Schema}
    (hschema : Schema.ofDefinition d naming = .ok schema) (options : Options) :
    (∀ request q, ItemQuery.ofRequest schema options request = .ok q →
      ∃ selected filtered w,
        Rendering.ofFilter? schema options request.filter selected = .ok (w, filtered) ∧
        q.Collects selected filtered ∧
        (q.Builds w ∧ ∀ {σ : Type} (store : Store σ) t, FailsByStore (q.execute store t).1) ∧
        ∀ id, ∃ single,
          Rendering.ofFilter schema options (.itemIds [id]) q.mentions = .ok (single, q.mentions) ∧
          (q.only id).Builds (w.conjoin single) ∧
          ∀ {σ : Type} (store : Store σ) t, FailsByStore (q.executeSingle id store t).1) ∧
    ∀ path necessary filter q, ValueQuery.compile schema options path necessary filter = .ok q →
      ∃ w,
        Rendering.ofFilter? schema options filter (({} : Mentions).add q.target).2 =
          .ok (w, q.mentions) ∧
        q.Builds w ∧ ∀ {σ : Type} (store : Store σ) t,
          FailsByStore (q.executeDistinct store t).1 ∧
            FailsByStore (q.executeGrouped store t).1 := by
  have hproper := Schema.proper_of_ofDefinition hschema
  constructor
  · intro request q hq
    have hcompiled := ItemQuery.compiled_ofRequest hproper hq
    obtain ⟨selected, filtered, hcollects, hpredicate, hwritten⟩ :=
      ItemQuery.exists_collects hproper hq
    refine ⟨selected, filtered, _, hwritten, hcollects,
      ⟨hcompiled.builds hproper hcollects.references hpredicate,
        hcompiled.failsByStore_execute hproper⟩, fun id => ?_⟩
    obtain ⟨single, hsingle, honly⟩ := ItemQuery.exists_only hq id
    have hrestricted := ItemQuery.compiled_predicate_only hpredicate id
    exact ⟨single, hsingle,
      honly ▸ (hcompiled.only id).builds hproper hcollects.references hrestricted,
      hcompiled.failsByStore_executeSingle hproper id⟩
  · intro path necessary filter q hq
    have hcompiled := ValueQuery.compiled_of_compile hproper hq
    obtain ⟨hwritten, hbuilds⟩ := ValueQuery.builds_of_compile hproper hq
    exact ⟨_, hwritten, hbuilds, fun store t =>
      ⟨hcompiled.failsByStore_executeDistinct hproper store t,
        hcompiled.failsByStore_executeGrouped hproper store t⟩⟩

open Predicate (filmsAndStudios filmAndStudioSchema titlesFilter) in
/-- The number 2, or 1 in the query for values, goes to the studio of an OR that is dropped. -/
theorem compiled_queries_build_films :
    let request : Request := {
      necessary := ["film"]
      select := [⟨"film", "title"⟩, ⟨"film", "genre"⟩]
      filter := some titlesFilter
      sort := [⟨⟨"studio", "name"⟩, .ascending⟩] }
    let script : Script := { results := [.error (.other "closed")] }
    Schema.ofDefinition filmsAndStudios {} = .ok filmAndStudioSchema ∧
      (∃ q w, ItemQuery.ofRequest filmAndStudioSchema {} request = .ok q ∧
        q.mentions.size = 5 ∧ q.sort.map (fun e => e.1.index) = [4] ∧
        q.Builds w ∧ FailsByStore (q.execute Script.store script).1 ∧
        ∀ id, ∃ single, (q.only id).Builds (w.conjoin single)) ∧
      ∃ q w,
        ValueQuery.compile filmAndStudioSchema {} ⟨"film", "title"⟩ [] (some titlesFilter) =
          .ok q ∧
        w.attributes = [(2, ⟨"film", "title"⟩)] ∧ q.mentions.size = 3 ∧ q.Builds w := by
  intro request script
  have hschema : Schema.ofDefinition filmsAndStudios {} = .ok filmAndStudioSchema := rfl
  obtain ⟨q, hq⟩ : ∃ q, ItemQuery.ofRequest filmAndStudioSchema {} request = .ok q := ⟨_, rfl⟩
  obtain ⟨r, hr⟩ : ∃ r, ValueQuery.compile filmAndStudioSchema {} ⟨"film", "title"⟩ []
    (some titlesFilter) = .ok r := ⟨_, rfl⟩
  obtain ⟨hitems, hvalues⟩ := compiled_queries_build hschema {}
  obtain ⟨-, -, w, -, -, ⟨hbuilds, hexecute⟩, honly⟩ := hitems request q hq
  obtain ⟨v, hv, hvbuilds, -⟩ := hvalues _ _ _ r hr
  have hsingle : ∀ id, ∃ single, (q.only id).Builds (w.conjoin single) := fun id =>
    (honly id).imp fun _ h => h.2.1
  refine ⟨hschema, ⟨q, w, hq, ?_, ?_, hbuilds, hexecute Script.store script, hsingle⟩,
    r, v, hr, ?_, ?_, hvbuilds⟩
  · cases hq
    rfl
  · cases hq
    rfl
  · cases hr
    cases hv
    rfl
  · cases hr
    rfl

end AspectQuery
