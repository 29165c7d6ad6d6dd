import AspectQuery.Proofs.Predicate.Faults
import AspectQuery.Proofs.Predicate.Lists
/-!
# The layout of predicates

How many values a list holds is a matter of layout. Whatever the size of the lists, a filter fails
with the same error or has a predicate with the same values, mentions and aspects, which is true for
the same items.
-/

set_option autoImplicit false

namespace AspectQuery

open Sql (Contents Operators Scope)

theorem Filter.Fault.of_dialect {schema : Schema} {options options' : Options} {node : Filter}
    {e : QueryError} (hdialect : options.dialect = options'.dialect)
    (h : node.Fault schema options e) : node.Fault schema options' e := by
  cases h with
  | unknownAspect hpath h => exact .unknownAspect hpath h
  | unknownAttribute hpath haspect h => exact .unknownAttribute hpath haspect h
  | similarTo htarget h =>
    rw [hdialect] at h ⊢
    exact .similarTo htarget h
  | emptyList htarget => exact .emptyList htarget
  | badValue hpath htarget hcompared hbefore h => exact .badValue hpath htarget hcompared hbefore h

theorem Filter.firstFault_of_dialect {schema : Schema} {options options' : Options}
    {ns : List Filter} {e : QueryError} (hdialect : options.dialect = options'.dialect) :
    FirstFault schema options ns e ↔ FirstFault schema options' ns e := by
  have hfault : ∀ {node e}, Fault schema options node e ↔ Fault schema options' node e :=
    ⟨.of_dialect hdialect, .of_dialect hdialect.symm⟩
  simp only [FirstFault, ← exists_fault_iff, hfault]

namespace Predicate

/-- The aspects of all attributes, in the order of the tree. -/
def named (p : Predicate) : List AspectId := (p.condition.map Condition.aspects).getD []

/-- What two predicates have in common that differ in layout only. -/
structure Relaid (p p' : Predicate) : Prop where
  isUnrestricted : p'.isUnrestricted = p.isUnrestricted
  mentions : p'.mentions = p.mentions
  named : p'.named = p.named

structure RelaidAll (ps ps' : List Predicate) : Prop where
  isUnrestricted : ps'.map isUnrestricted = ps.map isUnrestricted
  mentions : ps'.flatMap mentions = ps.flatMap mentions
  named : ps'.flatMap named = ps.flatMap named

theorem Relaid.refl (p : Predicate) : p.Relaid p := ⟨rfl, rfl, rfl⟩

theorem Relaid.negation {p p' : Predicate} (h : p.Relaid p') :
    (⟨some p.negation⟩ : Predicate).Relaid ⟨some p'.negation⟩ := by
  obtain ⟨hunrestricted, hmentions, hnamed⟩ := h
  obtain ⟨_ | c⟩ := p <;> obtain ⟨_ | c'⟩ := p'
  · exact .refl _
  · simp [Predicate.isUnrestricted] at hunrestricted
  · simp [Predicate.isUnrestricted] at hunrestricted
  · exact ⟨rfl, hmentions, hnamed⟩

theorem Relaid.cons {p p' : Predicate} {ps ps' : List Predicate} (h : p.Relaid p')
    (hrest : RelaidAll ps ps') : RelaidAll (p :: ps) (p' :: ps') where
  isUnrestricted := by rw [List.map_cons, List.map_cons, h.isUnrestricted, hrest.isUnrestricted]
  mentions := by rw [List.flatMap_cons, List.flatMap_cons, h.mentions, hrest.mentions]
  named := by rw [List.flatMap_cons, List.flatMap_cons, h.named, hrest.named]

theorem mentions_combine (op : Connective) (ps : List Predicate) :
    (combine op ps).mentions =
      if op = .or ∧ ps.any isUnrestricted then [] else ps.flatMap mentions :=
  getD_combine Condition.mentionsOfAll_eq ps

theorem named_combine (op : Connective) (ps : List Predicate) :
    (combine op ps).named =
      if op = .or ∧ ps.any isUnrestricted then [] else ps.flatMap named :=
  getD_combine Condition.aspectsOfAll_eq ps

theorem RelaidAll.combine (op : Connective) {ps ps' : List Predicate} (h : RelaidAll ps ps') :
    (combine op ps).Relaid (combine op ps') := by
  have hany : ps'.any Predicate.isUnrestricted = ps.any Predicate.isUnrestricted := by
    simpa [List.any_map] using congrArg (List.any · id) h.isUnrestricted
  have hall : ps'.all Predicate.isUnrestricted = ps.all Predicate.isUnrestricted := by
    simpa [List.all_map] using congrArg (List.all · id) h.isUnrestricted
  have hempty : ps'.isEmpty = ps.isEmpty := by
    simpa using congrArg List.isEmpty h.isUnrestricted
  refine ⟨?_, ?_, ?_⟩
  · rw [isUnrestricted_combine, isUnrestricted_combine, hany, hall, hempty]
  · rw [mentions_combine, mentions_combine, hany, h.mentions]
  · rw [named_combine, named_combine, hany, h.named]

variable {schema : Schema} {options : Options} {ms ms' : Mentions} {p : Predicate}

/-- The test may change as long as it is a test. -/
theorem comparing_relaid {path : AttributePath} {test test' : Attribute → Except QueryError Test}
    (h : comparing schema path ms test = .ok (p, ms'))
    (htest : ∀ target t, test target = .ok t → ∃ t', test' target = .ok t') :
    ∃ p', comparing schema path ms test' = .ok (p', ms') ∧ p.Relaid p' := by
  obtain ⟨target, t, hlookup, ht, rfl, rfl⟩ := comparing_eq_ok_iff.mp h
  obtain ⟨t', ht'⟩ := htest target t ht
  exact ⟨_, comparing_eq_ok_iff.mpr ⟨target, t', hlookup, ht', rfl, rfl⟩, ⟨rfl, rfl, rfl⟩⟩

section

variable (m : Nat)

mutual

theorem ofFilter_relaid (filter : Filter) {ms ms' : Mentions} {p : Predicate}
    (h : ofFilter schema options filter ms = .ok (p, ms')) :
    ∃ p', ofFilter schema { options with maxInValues := m } filter ms = .ok (p', ms') ∧
      p.Relaid p' := by
  cases filter with
  | combine op operands =>
    obtain ⟨ps, hps, rfl⟩ := ofFilter_combine_eq_ok_iff.mp h
    obtain ⟨ps', hps', hrelaid⟩ := ofFilters_relaid operands hps
    exact ⟨_, ofFilter_combine_eq_ok_iff.mpr ⟨ps', hps', rfl⟩, hrelaid.combine op⟩
  | not filter =>
    obtain ⟨q, hq, rfl⟩ := ofFilter_not_eq_ok_iff.mp h
    obtain ⟨q', hq', hrelaid⟩ := ofFilter_relaid filter hq
    exact ⟨_, ofFilter_not_eq_ok_iff.mpr ⟨q', hq', rfl⟩, hrelaid.negation⟩
  | among path vs =>
    refine comparing_relaid h fun target t ht => ?_
    obtain ⟨hvs, us, hus, rfl⟩ := among_eq_ok_iff.mp ht
    exact ⟨_, among_eq_ok_iff.mpr ⟨hvs, us, hus, rfl⟩⟩
  | itemIds ids =>
    rw [ofFilter] at h ⊢
    split at h
    · rename_i hnil
      rw [if_pos hnil]
      exact ⟨p, h, .refl p⟩
    · rename_i hne
      obtain ⟨rfl, rfl⟩ := Prod.mk.inj (pure_eq_ok.mp h)
      rw [if_neg hne]
      exact ⟨_, rfl, ⟨rfl, rfl, rfl⟩⟩
  | _ => exact ⟨p, h, .refl p⟩

theorem ofFilters_relaid (filters : List Filter) {ms ms' : Mentions} {ps : List Predicate}
    (h : ofFilters schema options filters ms = .ok (ps, ms')) :
    ∃ ps', ofFilters schema { options with maxInValues := m } filters ms = .ok (ps', ms') ∧
      RelaidAll ps ps' := by
  cases filters with
  | nil => exact ⟨ps, h, ⟨rfl, rfl, rfl⟩⟩
  | cons filter rest =>
    obtain ⟨p, ms₁, ps, hp, hps, rfl⟩ := ofFilters_cons_eq_ok_iff.mp h
    obtain ⟨p', hp', hrelaid⟩ := ofFilter_relaid filter hp
    obtain ⟨ps', hps', hrest⟩ := ofFilters_relaid rest hps
    exact ⟨_, ofFilters_cons_eq_ok_iff.mpr ⟨p', ms₁, ps', hp', hps', rfl⟩, hrelaid.cons hrest⟩

end

end

theorem ofFilter?_relaid (m : Nat) {filter : Option Filter}
    (h : ofFilter? schema options filter ms = .ok (p, ms')) :
    ∃ p', ofFilter? schema { options with maxInValues := m } filter ms = .ok (p', ms') ∧
      p.Relaid p' := by
  cases filter with
  | none => exact ⟨p, h, .refl p⟩
  | some filter => exact ofFilter_relaid m filter h

/-- The size of the lists changes nothing but the layout. Each predicate cuts the values of a node
into lists of its own size, and both are true for the same items. -/
theorem list_size_is_layout {d : SchemaDefinition} {naming : Naming}
    (hschema : Schema.ofDefinition d naming = .ok schema) (options : Options) (m : Nat)
    (filter : Option Filter) (ms : Mentions) :
    (∀ e, ofFilter? schema options filter ms = .error e ↔
      ofFilter? schema { options with maxInValues := m } filter ms = .error e) ∧
    ∀ p ms', ofFilter? schema options filter ms = .ok (p, ms') →
      ∃ p', ofFilter? schema { options with maxInValues := m } filter ms = .ok (p', ms') ∧
        p'.params = p.params ∧ p'.mentions = p.mentions ∧ p'.aspects = p.aspects ∧
        p.Lists (max 1 options.maxInValues) (Filter.members? schema filter) ∧
        p'.Lists (max 1 m) (Filter.members? schema filter) ∧
        ∀ (ops : Operators) (db : Contents) (item : ItemView) (σ : Scope), ∃ t,
          Part.truth? ops db p.params p.parts ⟨σ, item.mentioned ms', item.id⟩ = some t ∧
          Part.truth? ops db p'.params p'.parts ⟨σ, item.mentioned ms', item.id⟩ = some t := by
  have hs := Schema.proper_of_ofDefinition hschema
  refine ⟨fun e => ?_, fun p ms' h => ?_⟩
  · rw [ofFilter?_eq_error hs, ofFilter?_eq_error hs]
    exact Filter.firstFault_of_dialect rfl
  · obtain ⟨p', h', hrelaid⟩ := ofFilter?_relaid m h
    have hparams : p'.params = p.params := (params_ofFilter? h').trans (params_ofFilter? h).symm
    have haspects : p'.aspects = p.aspects := congrArg sortedNames hrelaid.named
    refine ⟨p', h', hparams, hrelaid.mentions, haspects, lists_ofFilter? h, lists_ofFilter? h', ?_⟩
    intro ops db item σ
    refine ⟨Filter.truth? ops db schema item filter, ?_, ?_⟩
    · rw [truth?_parts_of_compiled (compiled_ofFilter? hs h).1, truth_ofFilter? h]
    · rw [truth?_parts_of_compiled (compiled_ofFilter? hs h').1, truth_ofFilter? h']

/-- Of none of three genres, where an OR without a restriction drops a list. -/
def genresFilter : Filter :=
  .combine .and [
    .not (.among ⟨"film", "genre"⟩ [.text "drama", .text "crime", .text "western"]),
    .combine .or [.combine .and [], .among ⟨"film", "genre"⟩ [.text "horror"]]]

theorem list_size_is_layout_films : Schema.ofDefinition films {} = .ok filmSchema ∧
    ∃ p p' ms, ofFilter? filmSchema {} (some genresFilter) {} = .ok (p, ms) ∧
      ofFilter? filmSchema { maxInValues := 2 } (some genresFilter) {} = .ok (p', ms) ∧
      p'.params = p.params ∧ Part.lists p.parts = [[0, 1, 2]] ∧
      Part.lists p'.parts = [[0, 1], [2]] := by
  have hschema : Schema.ofDefinition films {} = .ok filmSchema := rfl
  obtain ⟨⟨p, ms⟩, hp⟩ : ∃ r, ofFilter? filmSchema {} (some genresFilter) {} = .ok r := ⟨_, rfl⟩
  obtain ⟨-, hlayout⟩ := list_size_is_layout hschema {} 2 (some genresFilter) {}
  obtain ⟨p', hp', hparams, -⟩ := hlayout p ms hp
  refine ⟨hschema, p, p', ms, hp, hp', hparams, ?_, ?_⟩
  · cases hp
    rfl
  · cases hp'
    rfl

end Predicate

end AspectQuery
