import AspectQuery.Proofs.Predicate.Rendering
import AspectQuery.Proofs.Query.Building
import AspectQuery.Proofs.Query.Session
/-!
# One item of a query

To load one item, a condition on its id is joined to the predicate of a compiled query. The same
statements come of a request whose filter asks for this item, and the same rows lead to the same
item.
-/

set_option autoImplicit false

namespace AspectQuery

open Store (Realizes RunsIfAny)

/-- The request for one item among those that it is about, not page by page. -/
def Request.only (r : Request) (id : ItemId) : Request :=
  { r with filter := Filter.both r.filter (some (.itemIds [id])), limit := none, offset := none }

namespace Predicate

/-- The predicate for one item. -/
def single (options : Options) (id : ItemId) : Predicate :=
  ⟨some (.itemIds (options.chunks [id]))⟩

theorem ofFilter_itemIds (schema : Schema) (options : Options) (id : ItemId) (ms : Mentions) :
    ofFilter schema options (.itemIds [id]) ms = .ok (single options id, ms) := rfl

/-- A filter that is joined with one for an item has the predicate that is joined with one for it,
also where there is no filter or no restriction. -/
theorem ofFilter?_both_itemIds {schema : Schema} {options : Options} {filter : Option Filter}
    {p : Predicate} {ms ms' : Mentions} (h : ofFilter? schema options filter ms = .ok (p, ms'))
    (id : ItemId) :
    ofFilter? schema options (Filter.both filter (some (.itemIds [id]))) ms =
      .ok (p.conjoin (single options id), ms') := by
  cases filter with
  | none =>
    obtain ⟨rfl, rfl⟩ := Prod.mk.inj (Except.ok.inj h)
    rfl
  | some filter =>
    have h' : ofFilter schema options filter ms = .ok (p, ms') := h
    simp only [Filter.both, ofFilter?, ofFilter, ofFilters, h']
    rfl

end Predicate

namespace ItemQuery

variable {schema : Schema} {options : Options} {request : Request} {q : ItemQuery}

theorem ofRequest_only (h : ofRequest schema options request = .ok q) (id : ItemId) :
    ofRequest schema options (request.only id) = .ok (q.only id) := by
  obtain ⟨targets, ms, h⟩ := ofRequest_eq_ok_iff.mp h
  obtain rfl := h.options_eq
  have hpredicate := Predicate.ofFilter?_both_itemIds h.predicate id
  exact ofRequest_eq_ok_iff.mpr
    ⟨targets, ms, { h with predicate := hpredicate, limit := rfl, offset := rfl }⟩

/-- How one item of a query `q` is loaded, next to the items of a query `r` with the statements `p`
and `cs`. -/
structure LoadsSingle (q : ItemQuery) (id : ItemId) (r : ItemQuery) (p : ItemStatement)
    (cs : List CorrelatedStatement) : Prop where
  /-- The id is compiled on its own, without a further mention, and joined in writing. -/
  predicate : ∃ single : Predicate,
    (∀ ms, Predicate.ofFilter q.schema q.options (.itemIds [id]) ms = .ok (single, ms)) ∧
      r.predicate.rendering = q.predicate.rendering.conjoin single.rendering
  bound : ∀ (plan : JoinPlan) (anchor : Sql.Column),
    plan.bind anchor r.predicate = r.predicate.rendering.bind plan anchor
  conducted :
    let first := p.bound r.options.dialect
    let others := cs.map fun c => c.bound r.options.dialect
    ∀ {σ : Type} (store : Store σ), Realizes
      (Conducted store (first :: others) (RunsIfAny store first others) (askedFor first others)
        (r.readSingle p cs))
      (q.executeSingle id store) (q.executeSingle id store.recorded)
  /-- Whichever stores answer the same rows, the item is the first one of all items. -/
  loaded :
    let first := p.bound r.options.dialect
    let others := cs.map fun c => c.bound r.options.dialect
    ∀ {σ τ : Type} (store : Store σ) (store' : Store τ) s s' t t' rows results,
      store.inTransaction (store.queryAllIfAny first others) s =
        (.ok (some (rows, results)), s') →
      store'.inTransaction (runAll store' others first) t = (.ok (results, rows), t') →
      (q.executeSingle id store s).1 = (r.execute store' t).1.map List.head?

theorem Compiled.loadsSingle (hs : schema.Proper) (h : q.Compiled schema) (id : ItemId) :
    ∃ p cs, (q.only id).primaryStatement = .ok p ∧ (q.only id).collectionStatements = .ok cs ∧
      q.LoadsSingle id (q.only id) p cs := by
  obtain ⟨p, hp⟩ := (h.only id).primaryStatement_total hs
  obtain ⟨cs, hcs⟩ := (h.only id).collectionStatements_total hs
  obtain ⟨ms, hknown⟩ := (h.only id).primary
  refine ⟨p, cs, hp, hcs, ?_, fun plan anchor => ?_, ?_, ?_⟩
  · exact ⟨Predicate.single q.options id, Predicate.ofFilter_itemIds q.schema q.options id,
      Predicate.rendering_conjoin _ _⟩
  · have hmentions : ∀ m ∈ (q.only id).predicate.mentions, ms.get? m.index = some m :=
      fun m hm => (hknown.predicate.known hm).get?
    exact (Predicate.bind_rendering hmentions plan anchor).symm
  · intro first others σ store
    exact realizes_executeSingle hp hcs store
  · intro first others σ τ store store' s s' t t' rows results hsingle hall
    have hleft : (q.executeSingle id store s).1 =
        ((q.only id).hydrate p cs rows results).map List.head? := by
      have hsingle' : store.inTransaction (store.queryAllIfAny (p.bound q.options.dialect)
        (cs.map fun c => c.bound q.options.dialect)) s = (.ok (some (rows, results)), s') := hsingle
      rw [executeSingle_eq hp hcs, resultOf, hsingle']
      rfl
    have hright : ((q.only id).execute store' t).1 = (q.only id).hydrate p cs rows results := by
      rw [execute_eq hp hcs, resultOf, hall]
      rfl
    rw [hleft, hright]

/-- To load one item is to run the query of the request for this item, up to the order of its
statements. -/
theorem single_of_restricted_request {d : SchemaDefinition} {naming : Naming}
    (hschema : Schema.ofDefinition d naming = .ok schema)
    (hq : ofRequest schema options request = .ok q) (id : ItemId) :
    ∃ r, ofRequest schema options (request.only id) = .ok r ∧
      ∃ p cs, r.primaryStatement = .ok p ∧ r.collectionStatements = .ok cs ∧
        q.LoadsSingle id r p cs := by
  have hproper := Schema.proper_of_ofDefinition hschema
  exact ⟨q.only id, ofRequest_only hq id, (compiled_ofRequest hproper hq).loadsSingle hproper id⟩

open Predicate (films filmSchema filmFilter) in
theorem single_of_restricted_request_films :
    let request : Request := {
      necessary := ["film"]
      select := [⟨"film", "title"⟩, ⟨"film", "genre"⟩]
      filter := some filmFilter
      limit := some 5 }
    let id : ItemId := ⟨List.replicate 32 0, rfl⟩
    let row : Row := ⟨["A0", "A1", "A2"], [.id id, .id id, .text "Alien"]⟩
    let genre : Row := ⟨["A0", "A1"], [.id id, .text "horror"]⟩
    let single : Script := { results := [.ok [row], .ok [genre]] }
    let all : Script := { results := [.ok [genre], .ok [row]] }
    Schema.ofDefinition films {} = .ok filmSchema ∧
      ∃ q, ofRequest filmSchema {} request = .ok q ∧
      (q.executeSingle id Script.store single).1.isOk ∧
      ∃ r, ofRequest filmSchema {} (request.only id) = .ok r ∧
      ∃ p cs, r.primaryStatement = .ok p ∧ r.collectionStatements = .ok cs ∧
        q.LoadsSingle id r p cs ∧
        (q.executeSingle id Script.store single).1 =
          (r.execute Script.store all).1.map List.head? := by
  intro request id row genre single all
  have hschema : Schema.ofDefinition films {} = .ok filmSchema := rfl
  obtain ⟨q, hq, hok, hlength⟩ : ∃ q, ofRequest filmSchema {} request = .ok q ∧
      (q.executeSingle id Script.store single).1.isOk ∧ (q.only id).collections.length = 1 :=
    ⟨_, rfl, by decide, rfl⟩
  obtain ⟨r, hr, p, cs, hp, hcs, hloads⟩ := single_of_restricted_request hschema hq id
  obtain rfl : r = q.only id := Except.ok.inj (hr.symm.trans (ofRequest_only hq id))
  obtain ⟨c, rfl⟩ := List.length_eq_one_iff.mp ((length_of_mapM hcs).trans hlength)
  exact ⟨hschema, q, hq, hok, _, hr, p, [c], hp, hcs, hloads,
    hloads.loaded Script.store Script.store single _ all _ [row] [[genre]] rfl rfl⟩

end ItemQuery

end AspectQuery
