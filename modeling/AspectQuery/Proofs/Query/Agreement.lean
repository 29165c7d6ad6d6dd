import AspectQuery.Proofs.Query.Compiled
import AspectQuery.Proofs.Statement.Collection
import AspectQuery.Proofs.Statement.Items
/-!
# Collections go with their items

The statements of a query decide about an item by the same values, although their tables are others.
So every item of the primary statement has its whole collections.
-/

set_option autoImplicit false

namespace AspectQuery

open Sql (Column Contents Operators Record Scope)

theorem map_filter_isSome {α β : Type} (p : α → Bool) (f : α → Option β) (b : β) (xs : List α) :
    ((xs.filter fun x => p x && (f x).isSome).map fun x => (f x).getD b) =
      (xs.filter p).filterMap f := by
  induction xs with
  | nil => rfl
  | cons x xs ih => cases hp : p x <;> cases hf : f x <;> simp [hp, hf, ih]

namespace ItemQuery

/-- How the statement of a collection goes with the primary statement, each with its frame. -/
structure Agrees (ops : Operators) (db : Contents) (q : ItemQuery) (target : Attribute)
    (f : Primary.Frame) (s : ItemStatement) (g : Collection.Frame) (t : CorrelatedStatement) :
    Prop where
  params : t.params = s.params
  itemId : JoinPlan.outputColumn f.anchor s.itemId ∈ s.select.outputs
  outputs : t.select.outputs =
    [JoinPlan.outputColumn g.anchor t.itemId, JoinPlan.outputColumn g.value t.value]
  /-- Rows of one item have the same values for the predicate. -/
  mentions : ∀ m ∈ q.predicate.mentions, ∃ c c', f.plan.Finds m c ∧ g.plan.Finds m c' ∧
    ∀ σ ∈ s.select.scopes ops db, ∀ τ ∈ t.select.scopes ops db,
      σ.cell f.anchor = τ.cell g.anchor → σ.cell c = τ.cell c'
  /-- Rows of one item meet the condition or not, and all rows of a collection are there. -/
  rows : ∃ σs τs, s.rows? ops db = some σs ∧ t.rows? ops db = some τs ∧
    (∀ σ ∈ s.select.scopes ops db, ∀ τ ∈ t.select.scopes ops db,
      σ.cell f.anchor = τ.cell g.anchor → (σ ∈ σs ↔ τ ∈ τs)) ∧
    ∀ σ ∈ σs, ((τs.filter fun τ => τ.cell g.anchor = σ.cell f.anchor).map fun τ => τ.cell g.value) =
      ((db target.collectionTable).filter fun r =>
        r q.schema.naming.itemIdColumn = σ.cell f.anchor).filterMap
          (target.rowValue? db q.schema.naming)

section

variable {ops : Operators} {db : Contents} {schema : Schema} {ms : Mentions} {q : ItemQuery}
  {target : Attribute} {f : Primary.Frame} {s : ItemStatement} {g : Collection.Frame}
  {t : CorrelatedStatement}

/-- The rows of a collection that belong to an item with all necessary aspects. -/
theorem values_of_item (hg : g.Fits ops db schema ms q.predicate target q.necessary) {id : Value}
    (hpresent : ∀ r, r schema.naming.itemIdColumn = id → q.necessary.all (present db schema r))
    (hadmits : q.predicate.admits ops db schema id) :
    ((((((db target.collectionTable).filter (Collection.keeps db schema target q.necessary)).map
        fun r => g.plan.tables.scope (records db schema r)).filter fun τ =>
          q.predicate.admits ops db schema (τ.cell g.anchor)).filter fun τ =>
            τ.cell g.anchor = id).map fun τ => τ.cell g.value) =
      ((db target.collectionTable).filter fun r => r schema.naming.itemIdColumn = id).filterMap
        (target.rowValue? db schema.naming) := by
  have hcell : ∀ r ∈ db target.collectionTable,
      (g.plan.tables.scope (records db schema r)).cell g.anchor = r schema.naming.itemIdColumn :=
    fun r hr => hg.plan.cell_anchor hg.anchor hr
  simp only [List.filter_map, List.filter_filter, List.map_map, Function.comp_def, hg.value]
  rw [← map_filter_isSome _ _ .null]
  refine congrArg (List.map _) (List.filter_congr fun r hr => ?_)
  rw [hcell r hr]
  by_cases hid : r schema.naming.itemIdColumn = id
  · simp [hid, hadmits, Collection.keeps, hpresent r hid]
  · simp [hid]

theorem agrees_of_fits (hs : schema.Proper) (hq : q.schema = schema)
    (hp : q.predicate.Compiled schema ms) (hf : f.Fits ops db schema ms q.predicate q.primary)
    (hg : g.Fits ops db schema ms q.predicate target q.necessary)
    (hsf : s.toStatement.Extends f.statement) (htg : t.toStatement.Extends g.statement)
    (hitem : JoinPlan.outputColumn f.anchor s.itemId ∈ s.select.outputs)
    (houtputs : t.select.outputs =
      [JoinPlan.outputColumn g.anchor t.itemId, JoinPlan.outputColumn g.value t.value]) :
    q.Agrees ops db target f s g t := by
  have hs' := hf.selects hs hp hsf
  have ht' := hg.plan.selects hs hg.anchor hp hg.mentions hg.statement htg
  have hrow : ∀ σ ∈ s.select.scopes ops db, ∃ r ∈ db (Primary.baseTable schema q.necessary),
      q.necessary.all (present db schema r) ∧ σ = f.plan.tables.scope (records db schema r) := by
    intro σ hσ
    rw [hs'.scopes] at hσ
    obtain ⟨r, hr, rfl⟩ := List.mem_map.mp hσ
    exact ⟨r, (List.mem_filter.mp hr).1, (List.mem_filter.mp hr).2, rfl⟩
  have hrow' : ∀ τ ∈ t.select.scopes ops db, ∃ r ∈ db target.collectionTable,
      τ = g.plan.tables.scope (records db schema r) := by
    intro τ hτ
    rw [ht'.scopes] at hτ
    obtain ⟨r, hr, rfl⟩ := List.mem_map.mp hτ
    exact ⟨r, List.mem_of_mem_filter hr, rfl⟩
  refine ⟨ht'.params.trans hs'.params.symm, hitem, houtputs, fun m hm => ?_, _, _, hs'.rows,
    ht'.rows, ?_, ?_⟩
  · have hknown := hp.known hm
    have hfinds := hf.finds hknown (hf.mentions m hm)
    obtain ⟨hfinds', hvalue⟩ := hg.finds hknown hm
    refine ⟨_, _, hfinds, hfinds', fun σ hσ τ hτ hid => ?_⟩
    obtain ⟨r, hr, -, rfl⟩ := hrow σ hσ
    obtain ⟨r', hr', rfl⟩ := hrow' τ hτ
    rw [hf.cell_anchor hr, hg.plan.cell_anchor hg.anchor hr'] at hid
    rw [hf.cell_of_finds hknown hfinds hr, hvalue r' hr', hid]
  · intro σ hσ τ hτ hid
    rw [List.mem_filter, List.mem_filter, ← hs'.scopes, ← ht'.scopes, hid]
    exact ⟨fun h => ⟨hτ, h.2⟩, fun h => ⟨hσ, h.2⟩⟩
  · intro σ hσ
    obtain ⟨hσ, hadmits⟩ := List.mem_filter.mp hσ
    rw [← hs'.scopes] at hσ
    obtain ⟨r, hr, hall, rfl⟩ := hrow σ hσ
    rw [hq]
    refine values_of_item hg (fun r' hr' => ?_) hadmits
    rw [hf.cell_anchor hr] at hr'
    exact present_congr hr' ▸ hall

theorem agrees_of_compiled (hs : schema.Proper) (hdb : db.Keyed ops schema)
    (hq : q.Compiled schema) :
    ∃ f s, q.primary.frame schema q.predicate {} = .ok f ∧ q.primaryStatement = .ok s ∧
      ∀ m ∈ q.collections, ∃ g t,
        Collection.frame schema q.predicate m.target q.necessary {} = .ok g ∧
          q.collectionStatement m = .ok t ∧ q.Agrees ops db m.target f s g t := by
  obtain ⟨ms, hknown⟩ := hq.primary
  obtain ⟨f, hframe, hf⟩ := Primary.fits_frame hknown hdb hs Aliases.sound_empty
  obtain ⟨s, aliases, hitems, hextends, -, hitem, -⟩ :=
    hf.items_eq_ok hdb hknown.select hframe q.options.dialect
  refine ⟨f, s, hframe, hq.primaryStatement_eq_ok_iff.mpr ⟨aliases, hitems⟩, fun m hm => ?_⟩
  obtain ⟨g, hframe', hg⟩ := Collection.fits_frame
    ⟨hq.lookup m hm, hq.collection m hm, hknown.necessary, hknown.predicate⟩ hdb hs
    Aliases.sound_empty
  obtain ⟨t, aliases', hcorrelated, hextends', houtputs⟩ := hg.correlated_eq_ok hframe'
  exact ⟨g, t, hframe', hq.collectionStatement_eq_ok_iff.mpr ⟨aliases', hcorrelated⟩,
    agrees_of_fits hs hq.schema_eq hknown.predicate hf hg hextends hextends' hitem houtputs⟩

end

/-- Every item that the primary statement of a query gives has all rows of its collections, however
the query is restricted. A page is cut out of the items only after that. -/
theorem collections_complete {d : SchemaDefinition} {naming : Naming} {schema : Schema}
    (hschema : Schema.ofDefinition d naming = .ok schema) {options : Options} {request : Request}
    {q : ItemQuery} (hq : ofRequest schema options request = .ok q) {ops : Operators}
    {db : Contents} (hdb : db.Keyed ops schema) :
    ∃ f s, q.primary.frame schema q.predicate {} = .ok f ∧ q.primaryStatement = .ok s ∧
      ∀ m ∈ q.collections, ∃ g t,
        Collection.frame schema q.predicate m.target q.necessary {} = .ok g ∧
          q.collectionStatement m = .ok t ∧ q.Agrees ops db m.target f s g t := by
  have hproper := Schema.proper_of_ofDefinition hschema
  exact agrees_of_compiled hproper hdb (compiled_ofRequest hproper hq)

open Predicate (films filmSchema filmFilter) in
/-- The film 2 is a drama and is left out, and the film 4 has one genre twice. -/
theorem collections_complete_films :
    let request : Request := {
      necessary := ["film"]
      select := [⟨"film", "title"⟩, ⟨"film", "genre"⟩]
      filter := some filmFilter }
    Schema.ofDefinition films {} = .ok filmSchema ∧
      ∃ q m, ofRequest filmSchema {} request = .ok q ∧ q.collections = [m] ∧
        ∃ f s, q.primary.frame filmSchema q.predicate {} = .ok f ∧ q.primaryStatement = .ok s ∧
          ∃ g t, Collection.frame filmSchema q.predicate m.target q.necessary {} = .ok g ∧
            q.collectionStatement m = .ok t ∧
            q.Agrees .equality Primary.filmContents m.target f s g t ∧
            ((t.rows? .equality Primary.filmContents).map fun τs =>
              τs.map fun τ => (τ.cell g.anchor, τ.cell g.value)) = some [
                (.integer 1, .text "horror"), (.integer 1, .text "science fiction"),
                (.integer 4, .text "science fiction"), (.integer 4, .text "horror"),
                (.integer 4, .text "science fiction")] := by
  intro request
  have hschema : Schema.ofDefinition films {} = .ok filmSchema := rfl
  -- The statement is evaluated before it has a name.
  obtain ⟨q, m, hq, hm, hrows⟩ : ∃ q m,
      ofRequest filmSchema {} request = .ok q ∧ q.collections = [m] ∧
      ((Collection.frame filmSchema q.predicate m.target q.necessary {}).toOption.bind fun g =>
        (q.collectionStatement m).toOption.bind fun t =>
          (t.rows? .equality Primary.filmContents).map fun τs =>
            τs.map fun τ => (τ.cell g.anchor, τ.cell g.value)) = some [
              (.integer 1, .text "horror"), (.integer 1, .text "science fiction"),
              (.integer 4, .text "science fiction"), (.integer 4, .text "horror"),
              (.integer 4, .text "science fiction")] := ⟨_, _, rfl, rfl, by decide +kernel⟩
  obtain ⟨f, s, hf, hs, hcollections⟩ :=
    collections_complete hschema hq Primary.keyed_filmContents
  obtain ⟨g, t, hg, ht, hagrees⟩ := hcollections m (hm ▸ List.mem_singleton_self m)
  rw [hg, ht] at hrows
  exact ⟨hschema, q, m, hq, hm, f, s, hf, hs, g, t, hg, ht, hagrees, hrows⟩

end ItemQuery

end AspectQuery
