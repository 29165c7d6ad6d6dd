import AspectQuery.Proofs.Outcome
import AspectQuery.Proofs.Predicate.Truth
import AspectQuery.Proofs.Schema.Proper
/-!
# Filters and their predicates

The predicate of a filter has the truth that the filter prescribes, whatever was dropped from it.
-/

set_option autoImplicit false

namespace AspectQuery

open Sql (Operators Contents Truth)

theorem Attribute.parameter_of_filterValue {target : Attribute} (v w : Value)
    (h : target.filterValue v = .ok w) : w = target.parameter v := by
  simp only [filterValue, mapError_eq_ok] at h
  simp [parameter, h, Except.toOption]

namespace CollectionRows

theorem ofStorage?_eq_none {naming : Naming} {target : Attribute} :
    ofStorage? naming target.storage = none ↔ target.bounded = true := by
  obtain ⟨aspect, name, valueType, storage⟩ := target
  cases storage <;> simp [ofStorage?, Attribute.bounded, Attribute.cardinality, Storage.cardinality,
    Cardinality.bounded]

theorem values_ofStorage? {ops : Operators} {db : Contents} {naming : Naming} {target : Attribute}
    {rows : CollectionRows} (h : ofStorage? naming target.storage = some rows) (id : Value) :
    rows.values ops db id = target.collected ops db naming id := by
  obtain ⟨aspect, name, valueType, storage⟩ := target
  cases storage <;> simp [ofStorage?] at h <;> subst h <;> rfl

end CollectionRows

section

variable {ops : Operators} {db : Contents} {schema : Schema} {options : Options}
  {item : ItemView}

namespace Predicate

variable {ms ms' : Mentions} {p : Predicate}

/-- What a condition about the attribute of a path comes from. -/
theorem about_eq_ok_iff {path : AttributePath}
    {condition : Attribute → Subject → Except QueryError Condition} :
    about schema path ms condition = .ok (p, ms') ↔
      ∃ target c, schema.lookup path = .ok target ∧
        condition target (Subject.ofAttribute schema.naming target ms).1 = .ok c ∧
        p = ⟨some c⟩ ∧ ms' = (Subject.ofAttribute schema.naming target ms).2 := by
  simp only [about, bind_eq_ok, pure_eq_ok, Prod.mk.injEq, Schema.find_eq_ok]
  constructor
  · rintro ⟨target, hfind, c, hc, rfl, rfl⟩
    exact ⟨target, c, hfind, hc, rfl, rfl⟩
  · rintro ⟨target, c, hfind, hc, rfl, rfl⟩
    exact ⟨target, hfind, c, hc, rfl, rfl⟩

theorem comparing_eq_ok_iff {path : AttributePath} {test : Attribute → Except QueryError Test} :
    comparing schema path ms test = .ok (p, ms') ↔
      ∃ target t, schema.lookup path = .ok target ∧ test target = .ok t ∧
        p = ⟨some (.test (Subject.ofAttribute schema.naming target ms).1 t)⟩ ∧
        ms' = (Subject.ofAttribute schema.naming target ms).2 := by
  simp only [comparing, about_eq_ok_iff, bind_eq_ok, pure_eq_ok]
  constructor
  · rintro ⟨target, -, hfind, ⟨t, ht, rfl⟩, rfl, rfl⟩
    exact ⟨target, t, hfind, ht, rfl, rfl⟩
  · rintro ⟨target, t, hfind, ht, rfl, rfl⟩
    exact ⟨target, _, hfind, ⟨t, ht, rfl⟩, rfl, rfl⟩

theorem similarTo_eq_ok_iff {pattern : String} {escape : Option Char} {t : Test} :
    (if options.dialect.supportsSimilarTo then pure (Test.similarTo pattern escape)
      else throw (.similarToUnsupported options.dialect) : Except QueryError Test) = .ok t ↔
      options.dialect.supportsSimilarTo ∧ Test.similarTo pattern escape = t := by
  split <;> simp [*]

theorem among_eq_ok_iff {target : Attribute} {vs : List Value} {t : Test} :
    (do
      if vs.isEmpty then throw (.emptyInList target.path)
      return .among (options.chunks (← vs.mapM target.filterValue)) :
        Except QueryError Test) = .ok t ↔
      vs ≠ [] ∧ ∃ us, vs.mapM target.filterValue = .ok us ∧ .among (options.chunks us) = t := by
  cases vs with
  | nil => exact ⟨nofun, fun h => absurd rfl h.1⟩
  | cons v vs =>
    simp only [List.isEmpty_cons, Bool.false_eq_true, if_false, bind_eq_ok, pure_eq_ok, ne_eq,
      reduceCtorEq, not_false_eq_true, true_and]

theorem ofFilter_combine_eq_ok_iff {op : Connective} {operands : List Filter} :
    ofFilter schema options (.combine op operands) ms = .ok (p, ms') ↔
      ∃ ps, ofFilters schema options operands ms = .ok (ps, ms') ∧ combine op ps = p := by
  simp only [ofFilter, bind_eq_ok, pure_eq_ok, Prod.exists, Prod.mk.injEq]
  constructor
  · rintro ⟨ps, _, hps, rfl, rfl⟩
    exact ⟨ps, hps, rfl⟩
  · rintro ⟨ps, hps, rfl⟩
    exact ⟨ps, ms', hps, rfl, rfl⟩

theorem ofFilter_not_eq_ok_iff {filter : Filter} :
    ofFilter schema options (.not filter) ms = .ok (p, ms') ↔
      ∃ q, ofFilter schema options filter ms = .ok (q, ms') ∧ ⟨some q.negation⟩ = p := by
  simp only [ofFilter, bind_eq_ok, pure_eq_ok, Prod.exists, Prod.mk.injEq]
  constructor
  · rintro ⟨q, _, hq, rfl, rfl⟩
    exact ⟨q, hq, rfl⟩
  · rintro ⟨q, hq, rfl⟩
    exact ⟨q, ms', hq, rfl, rfl⟩

theorem ofFilters_cons_eq_ok_iff {filter : Filter} {rest : List Filter} {ps : List Predicate} :
    ofFilters schema options (filter :: rest) ms = .ok (ps, ms') ↔
      ∃ q ms₁ qs, ofFilter schema options filter ms = .ok (q, ms₁) ∧
        ofFilters schema options rest ms₁ = .ok (qs, ms') ∧ q :: qs = ps := by
  simp only [ofFilters, bind_eq_ok, pure_eq_ok, Prod.exists, Prod.mk.injEq]
  constructor
  · rintro ⟨q, ms₁, hq, qs, _, hqs, rfl, rfl⟩
    exact ⟨q, ms₁, qs, hq, hqs, rfl⟩
  · rintro ⟨q, ms₁, qs, hq, hqs, rfl⟩
    exact ⟨q, ms₁, hq, qs, ms', hqs, rfl, rfl⟩

end Predicate

namespace Condition

theorem truth_test_ofAttribute (target : Attribute) (ms : Mentions) (t : Test) :
    (Condition.test (Subject.ofAttribute schema.naming target ms).1 t).truth ops db item.id
        (fun m => item.bounded m.target) =
      if target.bounded then t.truth ops (item.bounded target)
      else .ofBool ((target.collected ops db schema.naming item.id).any fun v =>
        t.truth ops v = .holds) := by
  cases h : CollectionRows.ofStorage? schema.naming target.storage with
  | none =>
    rw [if_pos (CollectionRows.ofStorage?_eq_none.mp h)]
    simp only [Subject.ofAttribute, h, truth, Mentions.add]
  | some rows =>
    rw [if_neg fun hb => by simp [CollectionRows.ofStorage?_eq_none.mpr hb] at h]
    simp only [Subject.ofAttribute, h, truth, CollectionRows.values_ofStorage? h]

theorem truth_isEmpty_ofAttribute (target : Attribute) (ms : Mentions) :
    (Condition.isEmpty (Subject.ofAttribute schema.naming target ms).1).truth ops db item.id
        (fun m => item.bounded m.target) =
      .ofBool (if target.bounded then (item.bounded target).isNull
        else (target.collected ops db schema.naming item.id).isEmpty) := by
  cases h : CollectionRows.ofStorage? schema.naming target.storage with
  | none =>
    rw [if_pos (CollectionRows.ofStorage?_eq_none.mp h)]
    simp only [Subject.ofAttribute, h, truth, Mentions.add]
  | some rows =>
    rw [if_neg fun hb => by simp [CollectionRows.ofStorage?_eq_none.mpr hb] at h]
    simp only [Subject.ofAttribute, h, truth, CollectionRows.values_ofStorage? h]

theorem truths_eq_map (id : Value) (column : Mention → Value) (cs : List Condition) :
    truths ops db id column cs = cs.map (truth ops db id column) := by
  induction cs with
  | nil => rfl
  | cons c cs ih => rw [truths, ih, List.map_cons]

end Condition

namespace Predicate

theorem truth_of_isUnrestricted {p : Predicate} (h : p.isUnrestricted) (id : Value)
    (column : Mention → Value) : p.truth ops db id column = .holds := by
  obtain ⟨_ | c⟩ := p
  · rfl
  · simp [isUnrestricted] at h

theorem truth_negation (p : Predicate) (id : Value) (column : Mention → Value) :
    p.negation.truth ops db id column = (p.truth ops db id column).not := by
  obtain ⟨_ | c⟩ := p <;> rfl

/-- What is left of a combination when the operands without a restriction are dropped. -/
theorem truth_combine_of_restricted {op : Connective} {ps : List Predicate}
    (h : ¬(op = .or ∧ ps.any isUnrestricted)) (id : Value) (column : Mention → Value) :
    (combine op ps).truth ops db id column =
      if (ps.filterMap condition).isEmpty then .holds
      else op.truth ((ps.filterMap condition).map (Condition.truth ops db id column)) := by
  rw [combine, if_neg h]
  rcases ps.filterMap condition with _ | ⟨c, _ | ⟨d, cs⟩⟩
  · rfl
  · cases op <;> simp [truth, Connective.truth]
  · simp [truth, Condition.truth, Condition.truths_eq_map]

theorem all_filterMap_condition (ps : List Predicate) (id : Value) (column : Mention → Value) :
    Truth.all ((ps.filterMap condition).map (Condition.truth ops db id column)) =
      Truth.all (ps.map (truth ops db id column)) := by
  induction ps with
  | nil => rfl
  | cons p ps ih => obtain ⟨_ | c⟩ := p <;> simp [truth, ih]

theorem map_filterMap_condition {ps : List Predicate} (h : ps.any isUnrestricted = false)
    (id : Value) (column : Mention → Value) :
    (ps.filterMap condition).map (Condition.truth ops db id column) =
      ps.map (truth ops db id column) := by
  induction ps with
  | nil => rfl
  | cons p ps ih =>
    obtain ⟨_ | c⟩ := p
    · simp [isUnrestricted] at h
    · simp only [List.any_cons, Bool.or_eq_false_iff] at h
      simpa [truth] using ih h.2

theorem isEmpty_filterMap_condition {ps : List Predicate} (h : ps.any isUnrestricted = false) :
    (ps.filterMap condition).isEmpty = ps.isEmpty := by
  rcases ps with _ | ⟨⟨_ | c⟩, ps⟩
  · rfl
  · simp [isUnrestricted] at h
  · rfl

theorem truth_combine (op : Connective) (ps : List Predicate) (id : Value)
    (column : Mention → Value) :
    (combine op ps).truth ops db id column =
      if ps.isEmpty then .holds else op.truth (ps.map (truth ops db id column)) := by
  cases op with
  | and =>
    rw [truth_combine_of_restricted (by simp)]
    simp only [Connective.truth, all_filterMap_condition]
    rcases ps with _ | ⟨p, ps⟩
    · rfl
    · split
      · rename_i hnil
        rw [← all_filterMap_condition, List.isEmpty_iff.mp hnil]
        rfl
      · rfl
  | or =>
    by_cases hany : ps.any isUnrestricted
    · obtain ⟨p, hp, hu⟩ := List.any_eq_true.mp hany
      have hmem : Truth.holds ∈ ps.map (truth ops db id column) :=
        List.mem_map.mpr ⟨p, hp, truth_of_isUnrestricted hu id column⟩
      rw [combine, if_pos ⟨rfl, hany⟩, Connective.truth, Truth.any_eq_holds_of_mem hmem, ite_self]
      rfl
    · rw [Bool.not_eq_true] at hany
      rw [truth_combine_of_restricted (by simp [hany]), map_filterMap_condition hany,
        isEmpty_filterMap_condition hany]

theorem truth_comparing {path : AttributePath} {ms ms' : Mentions} {p : Predicate}
    {test : Attribute → Except QueryError Test} {g : Attribute → Value → Truth}
    (h : comparing schema path ms test = .ok (p, ms'))
    (htest : ∀ target t, test target = .ok t → ∀ v, t.truth ops v = g target v) :
    p.truth ops db item.id (fun m => item.bounded m.target) =
      testTruth ops db schema item path g := by
  obtain ⟨target, t, hfind, ht, rfl, -⟩ := comparing_eq_ok_iff.mp h
  simp only [truth, Condition.truth_test_ofAttribute, testTruth, hfind, htest target t ht]

theorem isEmpty_ofFilters {filters : List Filter} {ms ms' : Mentions} {ps : List Predicate}
    (h : ofFilters schema options filters ms = .ok (ps, ms')) : ps.isEmpty = filters.isEmpty := by
  cases filters with
  | nil =>
    simp only [ofFilters, pure_eq_ok, Prod.mk.injEq] at h
    rw [← h.1]
    rfl
  | cons filter rest =>
    obtain ⟨p, ms₁, ps, -, -, rfl⟩ := ofFilters_cons_eq_ok_iff.mp h
    rfl

mutual

/-- A mention has the value of the attribute that it mentions. -/
theorem truth_ofFilter (filter : Filter) {ms ms' : Mentions} {p : Predicate}
    (h : ofFilter schema options filter ms = .ok (p, ms')) :
    p.truth ops db item.id (fun m => item.bounded m.target) = filter.truth ops db schema item := by
  cases filter with
  | combine op operands =>
    obtain ⟨ps, hps, rfl⟩ := ofFilter_combine_eq_ok_iff.mp h
    have hempty : ps.isEmpty = operands.isEmpty := isEmpty_ofFilters hps
    rw [truth_combine, truths_ofFilters operands hps, Filter.truth, hempty]
  | not filter =>
    obtain ⟨q, hq, rfl⟩ := ofFilter_not_eq_ok_iff.mp h
    rw [Filter.truth, ← truth_ofFilter filter hq, ← truth_negation]
    rfl
  | empty path =>
    obtain ⟨target, c, hfind, hc, rfl, -⟩ := about_eq_ok_iff.mp h
    rw [pure_eq_ok] at hc
    subst hc
    simp only [truth, Condition.truth_isEmpty_ofAttribute, Filter.truth, emptyTruth, hfind]
  | relational path op v =>
    refine truth_comparing h fun target t ht w => ?_
    simp only [bind_eq_ok, pure_eq_ok] at ht
    obtain ⟨u, hu, rfl⟩ := ht
    rw [Test.truth, target.parameter_of_filterValue v u hu]
  | like path pattern escape caseSensitive =>
    refine truth_comparing h fun target t ht w => ?_
    rw [pure_eq_ok] at ht
    rw [← ht, Test.truth]
  | similarTo path pattern escape =>
    refine truth_comparing h fun target t ht w => ?_
    obtain ⟨-, rfl⟩ := similarTo_eq_ok_iff.mp ht
    rw [Test.truth]
  | between path low high =>
    refine truth_comparing h fun target t ht w => ?_
    simp only [bind_eq_ok, pure_eq_ok] at ht
    obtain ⟨l, hl, u, hu, rfl⟩ := ht
    rw [Test.truth, target.parameter_of_filterValue low l hl,
      target.parameter_of_filterValue high u hu]
  | among path vs =>
    refine truth_comparing h fun target t ht w => ?_
    obtain ⟨-, us, hus, rfl⟩ := among_eq_ok_iff.mp ht
    rw [Test.truth, options.flatten_chunks, eq_map_of_mapM target.parameter_of_filterValue hus]
  | itemIds ids =>
    rw [ofFilter] at h
    split at h
    · rename_i hnil
      simp only [pure_eq_ok, Prod.mk.injEq] at h
      rw [← h.1, List.isEmpty_iff.mp hnil]
      rfl
    · simp only [pure_eq_ok, Prod.mk.injEq] at h
      rw [← h.1]
      simp only [truth, Condition.truth, options.flatten_chunks, Filter.truth]
  | never =>
    simp only [ofFilter, pure_eq_ok, Prod.mk.injEq] at h
    rw [← h.1]
    rfl

theorem truths_ofFilters (filters : List Filter) {ms ms' : Mentions} {ps : List Predicate}
    (h : ofFilters schema options filters ms = .ok (ps, ms')) :
    ps.map (truth ops db item.id fun m => item.bounded m.target) =
      Filter.truths ops db schema item filters := by
  cases filters with
  | nil =>
    simp only [ofFilters, pure_eq_ok, Prod.mk.injEq] at h
    rw [← h.1]
    rfl
  | cons filter rest =>
    obtain ⟨p, ms₁, ps, hp, hps, rfl⟩ := ofFilters_cons_eq_ok_iff.mp h
    rw [List.map_cons, Filter.truths, truth_ofFilter filter hp, truths_ofFilters rest hps]

end

theorem truth_ofFilter? {filter : Option Filter} {ms ms' : Mentions} {p : Predicate}
    (h : ofFilter? schema options filter ms = .ok (p, ms')) :
    p.truth ops db item.id (fun m => item.bounded m.target) =
      Filter.truth? ops db schema item filter := by
  cases filter with
  | none =>
    simp only [ofFilter?, Except.ok.injEq, Prod.mk.injEq] at h
    rw [← h.1]
    rfl
  | some filter => exact truth_ofFilter filter h

end Predicate

end

end AspectQuery
