import AspectQuery.Proofs.Predicate.Parameters
import AspectQuery.Proofs.Query.Compiled
import AspectQuery.Proofs.Statement.Names
/-!
# Placeholders and parameters

All statements of a query pass the values of its filter, each of them at a question mark of its own.
The statements for one item pass the id of that item behind them.
-/

set_option autoImplicit false

namespace AspectQuery

namespace ItemQuery

/-- All statements pass these values, each of them at its question mark. -/
structure Passes (q : ItemQuery) (vs : List Value) : Prop where
  params : q.predicate.params = vs
  primary : ∀ s, q.primaryStatement = .ok s → ∀ d, LinesUp q.predicate (s.bound d)
    (Sql.Token.render (Sql.spaced (d.page q.limit q.offset)))
  collection : ∀ m ∈ q.collections, ∀ s, q.collectionStatement m = .ok s → ∀ d,
    LinesUp q.predicate (s.bound d) ""

theorem Compiled.passes {schema : Schema} (hs : schema.Proper) {q : ItemQuery}
    (h : q.Compiled schema) : q.Passes q.predicate.params := by
  refine ⟨rfl, fun s hprimary d => ?_, fun m hm s hcollection d => ?_⟩
  · obtain ⟨aliases, hitems⟩ := h.primaryStatement_eq_ok_iff.mp hprimary
    obtain ⟨ms, hknown⟩ := h.primary
    exact Primary.linesUp_items hknown hs Aliases.sound_empty hitems d
  · obtain ⟨aliases, hcorrelated⟩ := h.collectionStatement_eq_ok_iff.mp hcollection
    obtain ⟨ms, hknown⟩ := h.known_collection hm
    exact Collection.linesUp_correlated hknown hs Aliases.sound_empty hcorrelated d

theorem params_ofRequest {schema : Schema} {options : Options} {request : Request} {q : ItemQuery}
    (h : ofRequest schema options request = .ok q) :
    q.predicate.params = Filter.parameters? schema request.filter := by
  obtain ⟨targets, ms, h⟩ := ofRequest_eq_ok_iff.mp h
  exact Predicate.params_ofFilter? h.predicate

end ItemQuery

namespace ValueQuery

/-- Both statements pass these values, each of them at its question mark. -/
structure Passes (q : ValueQuery) (vs : List Value) : Prop where
  params : q.predicate.params = vs
  distinct : ∀ s, q.distinctStatement = .ok s → ∀ d, LinesUp q.predicate (s.bound d) ""
  grouped : ∀ s, q.groupedStatement = .ok s → ∀ d, LinesUp q.predicate (s.bound d) ""

theorem Compiled.passes {schema : Schema} (hs : schema.Proper) {q : ValueQuery}
    (h : q.Compiled schema) : q.Passes q.predicate.params := by
  refine ⟨rfl, fun s hdistinct d => ?_, fun s hgrouped d => ?_⟩
  · unfold distinctStatement at hdistinct
    split at hdistinct
    · rename_i hbounded
      obtain ⟨⟨t, aliases⟩, ht, hdistinct⟩ := bind_eq_ok.mp hdistinct
      obtain ⟨value, hvalue, hdistinct⟩ := bind_eq_ok.mp hdistinct
      obtain rfl := pure_eq_ok.mp hdistinct
      obtain ⟨ms, hknown⟩ := h.primary hbounded
      rw [h.schema_eq] at ht
      exact Primary.linesUp_distinct hknown hs Aliases.sound_empty ht d
    · rename_i hbounded
      obtain ⟨⟨t, aliases⟩, ht, hdistinct⟩ := bind_eq_ok.mp hdistinct
      obtain rfl := pure_eq_ok.mp hdistinct
      obtain ⟨ms, hknown⟩ := h.collection (by simpa using hbounded)
      rw [h.schema_eq] at ht
      exact Collection.linesUp_distinct hknown hs Aliases.sound_empty ht d
  · unfold groupedStatement at hgrouped
    split at hgrouped
    · rename_i hbounded
      obtain ⟨⟨t, aliases⟩, ht, hgrouped⟩ := bind_eq_ok.mp hgrouped
      obtain ⟨value, hvalue, hgrouped⟩ := bind_eq_ok.mp hgrouped
      obtain rfl := pure_eq_ok.mp hgrouped
      obtain ⟨ms, hknown⟩ := h.primary hbounded
      rw [h.schema_eq] at ht
      exact Primary.linesUp_grouped hknown hs Aliases.sound_empty ht d
    · rename_i hbounded
      obtain ⟨⟨t, aliases⟩, ht, hgrouped⟩ := bind_eq_ok.mp hgrouped
      obtain rfl := pure_eq_ok.mp hgrouped
      obtain ⟨ms, hknown⟩ := h.collection (by simpa using hbounded)
      rw [h.schema_eq] at ht
      exact Collection.linesUp_grouped hknown hs Aliases.sound_empty ht d

theorem params_of_compile {schema : Schema} {options : Options} {path : AttributePath}
    {necessary : List AspectId} {filter : Option Filter} {q : ValueQuery}
    (h : compile schema options path necessary filter = .ok q) :
    q.predicate.params = Filter.parameters? schema filter := by
  obtain ⟨known, -, h⟩ := compile_eq_ok_iff.mp h
  exact Predicate.params_ofFilter? h.predicate

end ValueQuery

/-- In every statement of every query the question marks stand for the values of the filter. -/
theorem placeholders_line_up {d : SchemaDefinition} {naming : Naming} {schema : Schema}
    (hschema : Schema.ofDefinition d naming = .ok schema) (options : Options) :
    (∀ request q, ItemQuery.ofRequest schema options request = .ok q →
      q.Passes (Filter.parameters? schema request.filter) ∧
      ∀ id, (q.only id).Passes (Filter.parameters? schema request.filter ++ [.id id])) ∧
    ∀ path necessary filter q, ValueQuery.compile schema options path necessary filter = .ok q →
      q.Passes (Filter.parameters? schema filter) := by
  have hproper := Schema.proper_of_ofDefinition hschema
  constructor
  · intro request q hq
    have hcompiled := ItemQuery.compiled_ofRequest hproper hq
    have hparams := ItemQuery.params_ofRequest hq
    refine ⟨hparams ▸ hcompiled.passes hproper, fun id => ?_⟩
    have honly : (q.only id).predicate.params = q.predicate.params ++ [.id id] :=
      Predicate.params_conjoin_itemIds q.predicate q.options id
    rw [← hparams, ← honly]
    exact (hcompiled.only id).passes hproper
  · intro path necessary filter q hq
    have hparams := ValueQuery.params_of_compile hq
    exact hparams ▸ (ValueQuery.compiled_of_compile hproper hq).passes hproper

open Predicate (films filmSchema filmFilter) in
theorem placeholders_line_up_films :
    let request : Request := {
      necessary := ["film"]
      select := [⟨"film", "title"⟩, ⟨"film", "genre"⟩]
      filter := some filmFilter }
    let vs : List Value := [.text "drama", .text "Alien"]
    Schema.ofDefinition films {} = .ok filmSchema ∧
      (∃ q, ItemQuery.ofRequest filmSchema {} request = .ok q ∧
        q.primaryStatement.isOk ∧ q.collectionStatements.isOk ∧ q.Passes vs ∧
        ∀ id, (q.only id).Passes (vs ++ [.id id])) ∧
      ∃ q, ValueQuery.compile filmSchema {} ⟨"film", "title"⟩ [] (some filmFilter) = .ok q ∧
        q.distinctStatement.isOk ∧ q.groupedStatement.isOk ∧ q.Passes vs := by
  intro request vs
  have hschema : Schema.ofDefinition films {} = .ok filmSchema := rfl
  have hvs : Filter.parameters? filmSchema (some filmFilter) = vs := rfl
  obtain ⟨q, hq, hprimary, hcollections⟩ : ∃ q, ItemQuery.ofRequest filmSchema {} request = .ok q ∧
      q.primaryStatement.isOk ∧ q.collectionStatements.isOk := ⟨_, rfl, by decide, by decide⟩
  obtain ⟨r, hr, hdistinct, hgrouped⟩ : ∃ r,
      ValueQuery.compile filmSchema {} ⟨"film", "title"⟩ [] (some filmFilter) = .ok r ∧
        r.distinctStatement.isOk ∧ r.groupedStatement.isOk := ⟨_, rfl, rfl, rfl⟩
  obtain ⟨hitems, hvalues⟩ := placeholders_line_up hschema {}
  obtain ⟨hpasses, honly⟩ := hitems request q hq
  exact ⟨hschema, ⟨q, hq, hprimary, hcollections, hvs ▸ hpasses, hvs ▸ honly⟩, r, hr, hdistinct,
    hgrouped, hvs ▸ hvalues _ _ _ r hr⟩

end AspectQuery
