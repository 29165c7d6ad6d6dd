import AspectQuery.Proofs.Query.Building
import AspectQuery.Proofs.Statement.Alike
/-!
# Texts without values

The texts of all statements of a query come of the shape of its filter. Its values, patterns and ids
are among the parameters only, also the id of a single item that is asked for, so that a store that
goes by the texts cannot tell two filters of the same shape apart.
-/

set_option autoImplicit false

namespace AspectQuery

/-- The explanation with other parameters. -/
def Explanation.withParams (vs : List Value) (e : Explanation) : Explanation :=
  { e with statement := { e.statement with params := vs } }

/-- Both outcomes are statements with the same labels and texts and with as many parameters. -/
def SameTexts (x y : Except QueryError (List Explanation)) : Prop :=
  ∃ es fs, x = .ok es ∧ y = .ok fs ∧ List.Forall₂ (fun e f => e.label = f.label ∧
    e.statement.sql = f.statement.sql ∧
    e.statement.params.length = f.statement.params.length) es fs

theorem sameTexts_of_map {x y : Except QueryError (List Explanation)} {es : List Explanation}
    {vs ws : List Value} (hes : x = .ok es) (hx : x = x.map (List.map (Explanation.withParams vs)))
    (hy : y = x.map (List.map (Explanation.withParams ws))) (hlength : vs.length = ws.length) :
    SameTexts x y := by
  subst hes
  have hself : es = es.map (Explanation.withParams vs) := Except.ok.inj hx
  refine ⟨es, _, rfl, hy, ?_⟩
  rw [hself, List.map_map, List.forall₂_map_left_iff, List.forall₂_map_right_iff,
    List.forall₂_same]
  exact fun e _ => ⟨rfl, rfl, hlength⟩

namespace Store

variable {σ α : Type} {store : Store σ}

/-- The store goes by the texts of statements alone. -/
def Blind (store : Store σ) : Prop := ∀ b c : Bound, b.sql = c.sql → store.query b = store.query c

/-- The store with a record of the texts that it is asked for. -/
def spelled (store : Store σ) : Store (σ × List String) where
  start s := let (r, t) := store.start s.1; (r, t, s.2)
  query b s := let (r, t) := store.query b s.1; (r, t, s.2 ++ [b.sql])
  commit s := let (r, t) := store.commit s.1; (r, t, s.2)
  rollback s := let (r, t) := store.rollback s.1; (r, t, s.2)

theorem Blind.spelled (h : store.Blind) : store.spelled.Blind := by
  intro b c hsql
  funext s
  simp only [Store.spelled, h b c hsql, hsql]

theorem Blind.queryAll (h : store.Blind) {bs cs : List Bound}
    (hsql : bs.map Bound.sql = cs.map Bound.sql) : store.queryAll bs = store.queryAll cs := by
  induction bs generalizing cs with
  | nil => rw [List.map_eq_nil_iff.mp hsql.symm]
  | cons b bs ih =>
    cases cs with
    | nil => simp at hsql
    | cons c cs =>
      obtain ⟨hhead, htail⟩ := List.cons.inj hsql
      funext s
      simp only [Store.queryAll, h b c hhead, ih htail]

theorem Blind.queryAllIfAny (h : store.Blind) {b c : Bound} (hfirst : b.sql = c.sql)
    {bs cs : List Bound} (hsql : bs.map Bound.sql = cs.map Bound.sql) :
    store.queryAllIfAny b bs = store.queryAllIfAny c cs := by
  funext s
  simp only [Store.queryAllIfAny, h b c hfirst, h.queryAll hsql]

theorem Blind.runAll (h : store.Blind) {b c : Bound} (hlast : b.sql = c.sql)
    {bs cs : List Bound} (hsql : bs.map Bound.sql = cs.map Bound.sql) :
    ItemQuery.runAll store bs b = ItemQuery.runAll store cs c := by
  funext s
  simp only [ItemQuery.runAll, h b c hlast, h.queryAll hsql]

end Store

namespace ItemQuery

/-- The queries differ at most in the values of their predicates. -/
structure Alike (q r : ItemQuery) : Prop where
  predicate : q.predicate.Alike r.predicate
  rest : r = { q with predicate := r.predicate }

namespace Alike

variable {q r : ItemQuery}

theorem refl (q : ItemQuery) : q.Alike q := ⟨rfl, rfl⟩

theorem only (h : q.Alike r) (id id' : ItemId) : (q.only id).Alike (r.only id') := by
  obtain ⟨hpredicate, hrest⟩ := h
  refine ⟨?_, by rw [hrest]; rfl⟩
  refine hpredicate.conjoin ?_
  rw [hrest]
  have hchunks : ∀ i : ItemId, (q.options.chunks [i]).map (fun ids => ids.map fun _ => ItemId.blank)
      = q.options.chunks [ItemId.blank] :=
    fun i => (q.options.chunks_map (fun _ => ItemId.blank) [i]).symm
  simp only [Predicate.Alike, Predicate.blank, Option.map_some, Condition.blank, hchunks]

theorem options (h : q.Alike r) : r.options = q.options := by
  rw [h.rest]

theorem primaryStatement (h : q.Alike r) : r.primaryStatement =
    q.primaryStatement.map fun s => { s with params := r.predicate.params } := by
  obtain ⟨hpredicate, hrest⟩ := h
  generalize r.predicate = p' at hpredicate hrest ⊢
  subst hrest
  change (q.primary.items q.schema q.options.dialect p' {} >>= fun s => pure s.1) =
    (q.primary.items q.schema q.options.dialect q.predicate {} >>= fun s => pure s.1).map _
  rw [Primary.items_alike hpredicate]
  exact map_bind_eq fun _ => rfl

theorem collectionStatements (h : q.Alike r) : r.collectionStatements =
    q.collectionStatements.map (List.map fun s => { s with params := r.predicate.params }) := by
  obtain ⟨hpredicate, hrest⟩ := h
  generalize r.predicate = p' at hpredicate hrest ⊢
  subst hrest
  refine mapM_eq_map_mapM (fun m => ?_) q.collections
  unfold collectionStatement
  rw [Collection.correlated_alike hpredicate]
  exact map_bind_eq fun _ => rfl

theorem explain (h : q.Alike r) : r.explain =
    q.explain.map (List.map (Explanation.withParams r.predicate.params)) := by
  have hcollections : r.collections = q.collections := by rw [h.rest]
  unfold ItemQuery.explain
  rw [h.collectionStatements, h.primaryStatement, hcollections, h.options]
  refine map_bind_eq fun ss => map_bind_eq fun s => ?_
  simp only [pure, Except.pure, Except.map, List.zip_map_right, List.map_append, List.map_map,
    List.map_cons, List.map_nil]
  rfl

end Alike

variable {schema : Schema} {options : Options} {q r : ItemQuery}

theorem sql_primary (p : ItemStatement) (vs : List Value) (d : Sql.Dialect) :
    (p.bound d).sql = (({ p with params := vs } : ItemStatement).bound d).sql := rfl

theorem sql_collections (cs : List CorrelatedStatement) (vs : List Value) (d : Sql.Dialect) :
    (cs.map fun c => c.bound d).map Bound.sql =
      ((cs.map fun c => { c with params := vs }).map
        fun c : CorrelatedStatement => c.bound d).map Bound.sql := by
  simp only [List.map_map]
  rfl

section

variable {σ : Type} {store : Store σ}

theorem Alike.execute (h : q.Alike r) (hs : schema.Proper) (hq : q.Compiled schema)
    (hblind : store.Blind) (s : σ) : (q.execute store s).2 = (r.execute store s).2 := by
  obtain ⟨p, hp⟩ := hq.primaryStatement_total hs
  obtain ⟨cs, hcs⟩ := hq.collectionStatements_total hs
  have hp' := h.primaryStatement
  have hcs' := h.collectionStatements
  rw [hp] at hp'
  rw [hcs] at hcs'
  rw [execute_eq hp hcs, execute_eq hp' hcs', h.options]
  have hbody := hblind.runAll (sql_primary p r.predicate.params q.options.dialect)
    (sql_collections cs r.predicate.params q.options.dialect)
  exact congrArg (fun body => (store.inTransaction body s).2) hbody

theorem Alike.executeSingle (h : q.Alike r) (hs : schema.Proper) (hq : q.Compiled schema)
    (id id' : ItemId) (hblind : store.Blind) (s : σ) :
    (q.executeSingle id store s).2 = (r.executeSingle id' store s).2 := by
  obtain ⟨p, hp⟩ := (hq.only id).primaryStatement_total hs
  obtain ⟨cs, hcs⟩ := (hq.only id).collectionStatements_total hs
  have honly := h.only id id'
  have hp' := honly.primaryStatement
  have hcs' := honly.collectionStatements
  rw [hp] at hp'
  rw [hcs] at hcs'
  rw [executeSingle_eq hp hcs, executeSingle_eq hp' hcs', h.options]
  have hbody := hblind.queryAllIfAny (sql_primary p (r.only id').predicate.params q.options.dialect)
    (sql_collections cs (r.only id').predicate.params q.options.dialect)
  exact congrArg (fun body => (store.inTransaction body s).2) hbody

end

/-- The statements of both queries have the same texts, and no store that goes by these is asked for
anything else by one of the queries. -/
structure SameTexts (q r : ItemQuery) : Prop where
  explained : AspectQuery.SameTexts q.explain r.explain
  executed : ∀ {σ : Type} (store : Store σ), store.Blind →
    ∀ s, (q.execute store.spelled s).2 = (r.execute store.spelled s).2

/-- The same for the queries of one item each. -/
structure SameTextsOfSingle (q : ItemQuery) (id : ItemId) (r : ItemQuery) (id' : ItemId) :
    Prop where
  explained : AspectQuery.SameTexts (q.only id).explain (r.only id').explain
  executed : ∀ {σ : Type} (store : Store σ), store.Blind →
    ∀ s, (q.executeSingle id store.spelled s).2 = (r.executeSingle id' store.spelled s).2

theorem Alike.explained (h : q.Alike r) (hs : schema.Proper) (hq : q.Compiled schema) :
    AspectQuery.SameTexts q.explain r.explain := by
  obtain ⟨p, hp⟩ := hq.primaryStatement_total hs
  obtain ⟨cs, hcs⟩ := hq.collectionStatements_total hs
  exact sameTexts_of_map (explain_eq_ok hp hcs) (refl q).explain h.explain
    h.predicate.length_params

theorem Alike.sameTexts (h : q.Alike r) (hs : schema.Proper) (hq : q.Compiled schema) :
    q.SameTexts r :=
  ⟨h.explained hs hq, fun _ hblind => h.execute hs hq hblind.spelled⟩

theorem Alike.sameTextsOfSingle (h : q.Alike r) (hs : schema.Proper) (hq : q.Compiled schema)
    (id id' : ItemId) : q.SameTextsOfSingle id r id' :=
  ⟨(h.only id id').explained hs (hq.only id), fun _ hblind =>
    h.executeSingle hs hq id id' hblind.spelled⟩

theorem alike_ofRequest {request : Request} {filter : Option Filter}
    (hshape : Filter.SameShape request.filter filter)
    (hq : ofRequest schema options request = .ok q)
    (hr : ofRequest schema options { request with filter } = .ok r) : q.Alike r := by
  obtain ⟨targets, ms, hq⟩ := ofRequest_eq_ok_iff.mp hq
  obtain ⟨targets', ms', hr⟩ := ofRequest_eq_ok_iff.mp hr
  have hnecessary := Except.ok.inj (hr.necessary.symm.trans hq.necessary)
  have hselection := hr.selection
  rw [hnecessary, hq.selection] at hselection
  obtain ⟨rfl, hoptional⟩ := Prod.mk.inj (Except.ok.inj hselection)
  obtain ⟨halike, rfl⟩ := Predicate.alike_ofFilter? hshape hq.predicate hr.predicate
  obtain ⟨hsort, hmentions⟩ := Prod.mk.inj (Except.ok.inj (hr.sort.symm.trans hq.sort))
  refine ⟨halike, ?_⟩
  rw [← hnecessary, hoptional, ← hsort, ← hmentions, hq.schema_eq.trans hr.schema_eq.symm,
    hq.options_eq.trans hr.options_eq.symm, hq.main.trans hr.main.symm,
    hq.collections.trans hr.collections.symm, hq.limit.trans hr.limit.symm,
    hq.offset.trans hr.offset.symm]

end ItemQuery

namespace ValueQuery

/-- The queries differ at most in the values of their predicates. -/
structure Alike (q r : ValueQuery) : Prop where
  predicate : q.predicate.Alike r.predicate
  rest : r = { q with predicate := r.predicate }

namespace Alike

variable {q r : ValueQuery}

theorem refl (q : ValueQuery) : q.Alike q := ⟨rfl, rfl⟩

theorem fields (h : q.Alike r) : r.schema = q.schema ∧ r.options = q.options ∧
    r.target = q.target ∧ r.necessary = q.necessary ∧ r.primary = q.primary ∧
    r.valueAlias = q.valueAlias := by
  rw [h.rest]
  exact ⟨rfl, rfl, rfl, rfl, rfl, rfl⟩

theorem distinctStatement (h : q.Alike r) : r.distinctStatement =
    q.distinctStatement.map fun s => { s with params := r.predicate.params } := by
  obtain ⟨hschema, -, htarget, hnecessary, hprimary, hvalue⟩ := h.fields
  cases hbounded : q.target.bounded with
  | true =>
    rw [distinctStatement_of_bounded hbounded, distinctStatement_of_bounded (htarget ▸ hbounded),
      hschema, hprimary, hvalue, Primary.distinct_alike h.predicate]
    exact map_bind_eq fun _ => bind_eq_map_bind fun _ => rfl
  | false =>
    rw [distinctStatement_of_collection hbounded,
      distinctStatement_of_collection (htarget ▸ hbounded), hschema, htarget, hnecessary,
      Collection.distinct_alike h.predicate]
    exact map_bind_eq fun _ => rfl

theorem groupedStatement (h : q.Alike r) : r.groupedStatement =
    q.groupedStatement.map fun s => { s with params := r.predicate.params } := by
  obtain ⟨hschema, -, htarget, hnecessary, hprimary, hvalue⟩ := h.fields
  cases hbounded : q.target.bounded with
  | true =>
    rw [groupedStatement_of_bounded hbounded, groupedStatement_of_bounded (htarget ▸ hbounded),
      hschema, hprimary, hvalue, Primary.grouped_alike h.predicate]
    exact map_bind_eq fun _ => bind_eq_map_bind fun _ => rfl
  | false =>
    rw [groupedStatement_of_collection hbounded,
      groupedStatement_of_collection (htarget ▸ hbounded), hschema, htarget, hnecessary,
      Collection.grouped_alike h.predicate]
    exact map_bind_eq fun _ => rfl

theorem explainDistinct (h : q.Alike r) : r.explainDistinct =
    q.explainDistinct.map (List.map (Explanation.withParams r.predicate.params)) := by
  obtain ⟨-, hoptions, htarget, -⟩ := h.fields
  unfold ValueQuery.explainDistinct
  rw [h.distinctStatement, hoptions, htarget]
  exact map_bind_eq fun _ => rfl

theorem explainGrouped (h : q.Alike r) : r.explainGrouped =
    q.explainGrouped.map (List.map (Explanation.withParams r.predicate.params)) := by
  obtain ⟨-, hoptions, htarget, -⟩ := h.fields
  unfold ValueQuery.explainGrouped
  rw [h.groupedStatement, hoptions, htarget]
  exact map_bind_eq fun _ => rfl

end Alike

variable {schema : Schema} {options : Options} {q r : ValueQuery} {σ : Type} {store : Store σ}

theorem Alike.executeDistinct (h : q.Alike r) (hs : schema.Proper) (hq : q.Compiled schema)
    (hblind : store.Blind) (s : σ) :
    (q.executeDistinct store s).2 = (r.executeDistinct store s).2 := by
  obtain ⟨t, ht⟩ := hq.distinctStatement_total hs
  have ht' := h.distinctStatement
  rw [ht] at ht'
  obtain ⟨-, hoptions, -⟩ := h.fields
  rw [executeDistinct_eq store ht, executeDistinct_eq store ht', hoptions]
  exact congrArg (fun body => (store.inTransaction body s).2) (hblind _ _ rfl)

theorem Alike.executeGrouped (h : q.Alike r) (hs : schema.Proper) (hq : q.Compiled schema)
    (hblind : store.Blind) (s : σ) :
    (q.executeGrouped store s).2 = (r.executeGrouped store s).2 := by
  obtain ⟨t, ht⟩ := hq.groupedStatement_total hs
  have ht' := h.groupedStatement
  rw [ht] at ht'
  obtain ⟨-, hoptions, -⟩ := h.fields
  rw [executeGrouped_eq store ht, executeGrouped_eq store ht', hoptions]
  exact congrArg (fun body => (store.inTransaction body s).2) (hblind _ _ rfl)

theorem alike_compile {path : AttributePath} {necessary : List AspectId}
    {filter filter' : Option Filter} (hshape : Filter.SameShape filter filter')
    (hq : compile schema options path necessary filter = .ok q)
    (hr : compile schema options path necessary filter' = .ok r) : q.Alike r := by
  obtain ⟨known, hknown, hq⟩ := compile_eq_ok_iff.mp hq
  obtain ⟨known', hknown', hr⟩ := compile_eq_ok_iff.mp hr
  obtain rfl := Except.ok.inj (hknown.symm.trans hknown')
  have htarget := Except.ok.inj (hr.find.symm.trans hq.find)
  have hsubject := hr.subject
  have hnecessary := hr.necessary
  rw [htarget, ← hq.subject] at hsubject
  rw [htarget, ← hq.necessary] at hnecessary
  obtain ⟨halike, hmentions⟩ :=
    Predicate.alike_ofFilter? hshape hq.predicate (htarget ▸ hr.predicate)
  refine ⟨halike, ?_⟩
  rw [← hsubject, ← hnecessary, hmentions, hq.schema_eq.trans hr.schema_eq.symm,
    hq.options_eq.trans hr.options_eq.symm]

/-- Both statements of the queries have the same texts, and no store that goes by these is asked
for anything else by one of the queries. -/
structure SameTexts (q r : ValueQuery) : Prop where
  distinct : AspectQuery.SameTexts q.explainDistinct r.explainDistinct
  grouped : AspectQuery.SameTexts q.explainGrouped r.explainGrouped
  executed : ∀ {σ : Type} (store : Store σ), store.Blind → ∀ s,
    (q.executeDistinct store.spelled s).2 = (r.executeDistinct store.spelled s).2 ∧
    (q.executeGrouped store.spelled s).2 = (r.executeGrouped store.spelled s).2

theorem Alike.sameTexts (h : q.Alike r) (hs : schema.Proper) (hq : q.Compiled schema) :
    q.SameTexts r := by
  obtain ⟨s, hdistinct⟩ := hq.distinctStatement_total hs
  obtain ⟨t, hgrouped⟩ := hq.groupedStatement_total hs
  have hlength := h.predicate.length_params
  refine ⟨?_, ?_, fun store hblind u => ?_⟩
  · exact sameTexts_of_map (bind_eq_ok.mpr ⟨s, hdistinct, rfl⟩) (refl q).explainDistinct
      h.explainDistinct hlength
  · exact sameTexts_of_map (bind_eq_ok.mpr ⟨t, hgrouped, rfl⟩) (refl q).explainGrouped
      h.explainGrouped hlength
  · exact ⟨h.executeDistinct hs hq hblind.spelled u, h.executeGrouped hs hq hblind.spelled u⟩

end ValueQuery

/-- Of a filter only its shape comes into the texts of the statements of a query, and nothing of the
id of a single item that is asked for. -/
theorem texts_without_values {d : SchemaDefinition} {naming : Naming} {schema : Schema}
    (hschema : Schema.ofDefinition d naming = .ok schema) (options : Options) :
    (∀ request filter q r, Filter.SameShape request.filter filter →
      ItemQuery.ofRequest schema options request = .ok q →
      ItemQuery.ofRequest schema options { request with filter } = .ok r →
      q.SameTexts r ∧ ∀ id id', q.SameTextsOfSingle id r id') ∧
    ∀ path necessary filter filter' q r, Filter.SameShape filter filter' →
      ValueQuery.compile schema options path necessary filter = .ok q →
      ValueQuery.compile schema options path necessary filter' = .ok r → q.SameTexts r := by
  have hproper := Schema.proper_of_ofDefinition hschema
  constructor
  · intro request filter q r hshape hq hr
    have halike := ItemQuery.alike_ofRequest hshape hq hr
    have hcompiled := ItemQuery.compiled_ofRequest hproper hq
    refine ⟨halike.sameTexts hproper hcompiled, fun id id' => ?_⟩
    exact halike.sameTextsOfSingle hproper hcompiled id id'
  · intro path necessary filter filter' q r hshape hq hr
    exact (ValueQuery.alike_compile hshape hq hr).sameTexts hproper
      (ValueQuery.compiled_of_compile hproper hq)

open Predicate (films filmSchema filmFilter) in
theorem texts_without_values_films :
    let other : Filter := .combine .or [
      .not (.among ⟨"film", "genre"⟩ [.text "' OR 1 = 1 --"]),
      .combine .and [.relational ⟨"film", "title"⟩ .eq .null, .combine .or []]]
    let request : Request := {
      necessary := ["film"]
      select := [⟨"film", "title"⟩, ⟨"film", "genre"⟩]
      filter := some filmFilter }
    let id : ItemId := ⟨List.replicate 32 0, rfl⟩
    let id' : ItemId := ⟨List.replicate 32 1, rfl⟩
    let script : Script := { results := [.ok [⟨["A0"], [.null]⟩]] }
    Schema.ofDefinition films {} = .ok filmSchema ∧
      Filter.SameShape (some filmFilter) (some other) ∧
      (∃ q r, ItemQuery.ofRequest filmSchema {} request = .ok q ∧
        ItemQuery.ofRequest filmSchema {} { request with filter := some other } = .ok r ∧
        q.predicate.params ≠ r.predicate.params ∧ q.SameTexts r ∧ q.SameTextsOfSingle id r id' ∧
        (q.executeSingle id Script.store.spelled (script, [])).2 =
          (r.executeSingle id' Script.store.spelled (script, [])).2) ∧
      ∃ q r, ValueQuery.compile filmSchema {} ⟨"film", "title"⟩ [] (some filmFilter) = .ok q ∧
        ValueQuery.compile filmSchema {} ⟨"film", "title"⟩ [] (some other) = .ok r ∧
        q.SameTexts r := by
  intro other request id id' script
  have hschema : Schema.ofDefinition films {} = .ok filmSchema := rfl
  have hshape : Filter.SameShape (some filmFilter) (some other) := rfl
  obtain ⟨q, r, hq, hr, hne⟩ : ∃ q r, ItemQuery.ofRequest filmSchema {} request = .ok q ∧
      ItemQuery.ofRequest filmSchema {} { request with filter := some other } = .ok r ∧
      q.predicate.params ≠ r.predicate.params := ⟨_, _, rfl, rfl, by decide⟩
  obtain ⟨q', r', hq', hr'⟩ : ∃ q r,
      ValueQuery.compile filmSchema {} ⟨"film", "title"⟩ [] (some filmFilter) = .ok q ∧
      ValueQuery.compile filmSchema {} ⟨"film", "title"⟩ [] (some other) = .ok r :=
    ⟨_, _, rfl, rfl⟩
  obtain ⟨hitems, hvalues⟩ := texts_without_values hschema {}
  obtain ⟨htexts, hsingle⟩ := hitems request (some other) q r hshape hq hr
  have hblind : Script.store.Blind := fun _ _ _ => rfl
  exact ⟨hschema, hshape, ⟨q, r, hq, hr, hne, htexts, hsingle id id',
    (hsingle id id').executed Script.store hblind (script, [])⟩, q', r', hq', hr',
    hvalues _ _ _ _ q' r' hshape hq' hr'⟩

end AspectQuery
