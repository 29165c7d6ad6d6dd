import AspectQuery.Proofs.Predicate.Layout
import AspectQuery.Proofs.Predicate.OnePass
import AspectQuery.Proofs.Predicate.References
/-!
# Operands that are dropped

An OR that restricts nothing is dropped with all that stands in it. What its operands have collected
until then is gone: no value, attribute or aspect of them is left, and only the numbers of their
mentions are not given out again.
-/

set_option autoImplicit false

namespace AspectQuery

namespace Filter

mutual

/-- The attributes of all conditions that stand in no dropped OR, in the order of the tree. -/
def kept : Filter → List AttributePath
  | .combine .or operands => if (combine .or operands).unrestricted then [] else keptOfAll operands
  | .combine .and operands => keptOfAll operands
  | .not filter => filter.kept
  | filter => filter.subject?.toList

def keptOfAll : List Filter → List AttributePath
  | [] => []
  | filter :: rest => filter.kept ++ keptOfAll rest

end

/-- No OR among the nodes has an operand without a restriction. -/
def Intact (ns : List Filter) : Prop :=
  ∀ operands, .combine .or operands ∈ ns → ∀ o ∈ operands, o.unrestricted = false

theorem Intact.mono {ns ns' : List Filter} (h : Intact ns') (hsub : ns ⊆ ns') : Intact ns :=
  fun operands hmem => h operands (hsub hmem)

theorem kept_combine (op : Connective) (operands : List Filter) :
    (combine op operands).kept =
      if op = .or ∧ (combine op operands).unrestricted then [] else keptOfAll operands := by
  cases op <;> simp [kept]

theorem unrestrictedOfAll_eq (filters : List Filter) :
    unrestrictedOfAll filters = filters.map unrestricted := by
  induction filters with
  | nil => rfl
  | cons filter rest ih => rw [unrestrictedOfAll, ih, List.map_cons]

theorem unrestricted_or_iff {operands : List Filter} :
    (combine .or operands).unrestricted ↔ operands = [] ∨ ∃ o ∈ operands, o.unrestricted := by
  simp [unrestricted, unrestrictedOfAll_eq]

mutual

theorem kept_sublist (filter : Filter) : filter.kept.Sublist filter.attributes := by
  cases filter with
  | combine op operands =>
    rw [kept_combine, attributes]
    split
    · exact List.nil_sublist _
    · exact keptOfAll_sublist operands
  | not filter => exact kept_sublist filter
  | _ => exact List.Sublist.refl _

theorem keptOfAll_sublist (filters : List Filter) :
    (keptOfAll filters).Sublist (attributesOfAll filters) := by
  cases filters with
  | nil => exact List.Sublist.refl _
  | cons filter rest => exact (kept_sublist filter).append (keptOfAll_sublist rest)

end

mutual

/-- Where no OR is dropped but empty ones, all attributes are kept. -/
theorem kept_eq_attributes (filter : Filter) (h : Intact filter.nodes) :
    filter.kept = filter.attributes := by
  cases filter with
  | combine op operands =>
    have hall := keptOfAll_eq_attributes operands (h.mono (List.subset_cons_self _ _))
    rw [kept_combine, attributes, hall]
    refine ite_eq_right_iff.mpr ?_
    rintro ⟨rfl, hunrestricted⟩
    rcases unrestricted_or_iff.mp hunrestricted with rfl | ⟨o, ho, hfree⟩
    · rfl
    · rw [h operands List.mem_cons_self o ho] at hfree
      cases hfree
  | not filter => exact kept_eq_attributes filter (h.mono (List.subset_cons_self _ _))
  | _ => rfl

theorem keptOfAll_eq_attributes (filters : List Filter) (h : Intact (nodesOfAll filters)) :
    keptOfAll filters = attributesOfAll filters := by
  cases filters with
  | nil => rfl
  | cons filter rest =>
    rw [keptOfAll, attributesOfAll,
      kept_eq_attributes filter (h.mono (List.subset_append_left _ _)),
      keptOfAll_eq_attributes rest (h.mono (List.subset_append_right _ _))]

end

mutual

theorem nodes_subset {node : Filter} (filter : Filter) (h : node ∈ filter.nodes) :
    node.nodes ⊆ filter.nodes := by
  cases filter with
  | combine op operands =>
    rcases List.mem_cons.mp h with rfl | h
    · exact List.Subset.refl _
    · exact List.subset_cons_of_subset _ (nodesOfAll_subset operands h)
  | not filter =>
    rcases List.mem_cons.mp h with rfl | h
    · exact List.Subset.refl _
    · exact List.subset_cons_of_subset _ (nodes_subset filter h)
  | _ =>
    obtain rfl := List.mem_singleton.mp h
    exact List.Subset.refl _

theorem nodesOfAll_subset {node : Filter} (filters : List Filter) (h : node ∈ nodesOfAll filters) :
    node.nodes ⊆ nodesOfAll filters := by
  cases filters with
  | nil => exact absurd h List.not_mem_nil
  | cons filter rest =>
    rcases List.mem_append.mp h with h | h
    · exact List.subset_append_of_subset_left _ (nodes_subset filter h)
    · exact List.subset_append_of_subset_right _ (nodesOfAll_subset rest h)

end

end Filter

/-- The attribute of the path fits into the row of an item. -/
def Schema.bounded (schema : Schema) (path : AttributePath) : Bool :=
  (schema.lookup path).toOption.any Attribute.bounded

namespace Predicate

/-- What mentions and aspects keep of some attributes. The mentions are numbered between two states
of the mentions of the query. -/
structure Keeps (schema : Schema) (ms ms' : Mentions) (kept : List AttributePath)
    (mentions : List Mention) (named : List AspectId) : Prop where
  paths : mentions.map (fun m => m.target.path) = kept.filter schema.bounded
  aspects : named = kept.map AttributePath.aspect
  ascending : (mentions.map Mention.index).Pairwise (· < ·)
  numbered : ∀ m ∈ mentions, ms.size ≤ m.index ∧ m.index < ms'.size
  size_le : ms.size ≤ ms'.size

namespace Keeps

variable {schema : Schema} {ms ms' ms'' : Mentions} {kept kept' : List AttributePath}
  {mentions mentions' : List Mention} {named named' : List AspectId}

theorem nil (h : ms.size ≤ ms'.size) : Keeps schema ms ms' [] [] [] :=
  ⟨rfl, rfl, .nil, by simp, h⟩

theorem append (h : Keeps schema ms ms' kept mentions named)
    (h' : Keeps schema ms' ms'' kept' mentions' named') :
    Keeps schema ms ms'' (kept ++ kept') (mentions ++ mentions') (named ++ named') := by
  refine ⟨?_, ?_, ?_, fun m hm => ?_, h.size_le.trans h'.size_le⟩
  · rw [List.map_append, List.filter_append, h.paths, h'.paths]
  · rw [List.map_append, h.aspects, h'.aspects]
  · rw [List.map_append, List.pairwise_append]
    refine ⟨h.ascending, h'.ascending, ?_⟩
    simp only [List.forall_mem_map]
    exact fun m hm m' hm' => (h.numbered m hm).2.trans_le (h'.numbered m' hm').1
  · rcases List.mem_append.mp hm with hm | hm
    · exact ⟨(h.numbered m hm).1, (h.numbered m hm).2.trans_le h'.size_le⟩
    · exact ⟨h.size_le.trans (h'.numbered m hm).1, (h'.numbered m hm).2⟩

theorem ofAttribute (hs : schema.Proper) {path : AttributePath} {target : Attribute}
    (h : schema.lookup path = .ok target) (ms : Mentions) :
    Keeps schema ms (Subject.ofAttribute schema.naming target ms).2 [path]
      (Subject.ofAttribute schema.naming target ms).1.mentions
      [(Subject.ofAttribute schema.naming target ms).1.aspect] := by
  have hpath := Schema.path_of_lookup hs h
  have hbounded : schema.bounded path = target.bounded := by
    simp [Schema.bounded, h, Except.toOption]
  cases hrows : CollectionRows.ofStorage? schema.naming target.storage with
  | none =>
    have htarget := CollectionRows.ofStorage?_eq_none.mp hrows
    simp only [Subject.ofAttribute, hrows]
    refine ⟨?_, ?_, List.pairwise_singleton _ _, fun m hm => ?_, ?_⟩
    · simp [Subject.mentions, Mentions.add, hbounded, htarget, hpath]
    · simp [Subject.aspect, Mentions.add, ← hpath, Attribute.path]
    · obtain rfl := List.mem_singleton.mp hm
      rw [ms.size_add]
      exact ⟨Nat.le_refl _, Nat.lt_succ_self _⟩
    · rw [ms.size_add]
      exact Nat.le_succ _
  | some rows =>
    have htarget : target.bounded = false := by
      rw [← Bool.not_eq_true, ← CollectionRows.ofStorage?_eq_none, hrows]
      exact Option.some_ne_none rows
    simp only [Subject.ofAttribute, hrows]
    refine ⟨?_, ?_, .nil, by simp [Subject.mentions], Nat.le_refl _⟩
    · simp [Subject.mentions, hbounded, htarget]
    · simp [Subject.aspect, hpath]

end Keeps

variable {schema : Schema} {options : Options}

section Nodes

variable {path : AttributePath} {ms ms' : Mentions} {p : Predicate}

theorem keeps_about (hs : schema.Proper)
    {condition : Attribute → Subject → Except QueryError Condition}
    (h : about schema path ms condition = .ok (p, ms'))
    (hc : ∀ target s c, condition target s = .ok c →
      c.mentions = s.mentions ∧ c.aspects = [s.aspect]) :
    Keeps schema ms ms' [path] p.mentions p.named := by
  obtain ⟨target, c, hlookup, hcondition, rfl, rfl⟩ := about_eq_ok_iff.mp h
  obtain ⟨hmentions, haspects⟩ := hc target _ c hcondition
  have hkeeps := Keeps.ofAttribute hs hlookup ms
  rwa [← hmentions, ← haspects] at hkeeps

theorem keeps_comparing (hs : schema.Proper) {test : Attribute → Except QueryError Test}
    (h : comparing schema path ms test = .ok (p, ms')) :
    Keeps schema ms ms' [path] p.mentions p.named := by
  refine keeps_about hs h fun target s c hc => ?_
  simp only [bind_eq_ok, pure_eq_ok] at hc
  obtain ⟨t, -, rfl⟩ := hc
  exact ⟨rfl, rfl⟩

end Nodes

theorem mentions_negation (p : Predicate) :
    (⟨some p.negation⟩ : Predicate).mentions = p.mentions := by
  obtain ⟨_ | c⟩ := p <;> rfl

theorem named_negation (p : Predicate) : (⟨some p.negation⟩ : Predicate).named = p.named := by
  obtain ⟨_ | c⟩ := p <;> rfl

mutual

/-- A predicate mentions what is kept of its filter, and nothing else. -/
theorem keeps_ofFilter (hs : schema.Proper) (filter : Filter) {ms ms' : Mentions} {p : Predicate}
    (h : ofFilter schema options filter ms = .ok (p, ms')) :
    Keeps schema ms ms' filter.kept p.mentions p.named := by
  cases filter with
  | combine op operands =>
    obtain ⟨ps, hps, rfl⟩ := ofFilter_combine_eq_ok_iff.mp h
    have hall := keeps_ofFilters hs operands hps
    obtain ⟨-, hunrestricted⟩ := params_ofFilters operands hps
    have hempty := isEmpty_ofFilters hps
    rw [mentions_combine, named_combine, Filter.kept_combine,
      drop_combine_eq op hunrestricted hempty fun hnil => by rw [hnil]; rfl,
      drop_combine_eq op hunrestricted hempty fun hnil => by rw [hnil]; rfl]
    split
    · exact .nil hall.size_le
    · exact hall
  | not filter =>
    obtain ⟨q, hq, rfl⟩ := ofFilter_not_eq_ok_iff.mp h
    have hkeeps := keeps_ofFilter hs filter hq
    rwa [← mentions_negation, ← named_negation] at hkeeps
  | empty path =>
    refine keeps_about hs h fun target s c hc => ?_
    obtain rfl := pure_eq_ok.mp hc
    exact ⟨rfl, rfl⟩
  | relational path op v => exact keeps_comparing hs h
  | like path pattern escape caseSensitive => exact keeps_comparing hs h
  | similarTo path pattern escape => exact keeps_comparing hs h
  | between path low high => exact keeps_comparing hs h
  | among path vs => exact keeps_comparing hs h
  | itemIds ids =>
    rw [ofFilter] at h
    split at h
    · obtain ⟨rfl, rfl⟩ := Prod.mk.inj (pure_eq_ok.mp h)
      exact .nil (Nat.le_refl _)
    · obtain ⟨rfl, rfl⟩ := Prod.mk.inj (pure_eq_ok.mp h)
      exact .nil (Nat.le_refl _)
  | never =>
    obtain ⟨rfl, rfl⟩ := Prod.mk.inj (pure_eq_ok.mp h)
    exact .nil (Nat.le_refl _)

theorem keeps_ofFilters (hs : schema.Proper) (filters : List Filter) {ms ms' : Mentions}
    {ps : List Predicate} (h : ofFilters schema options filters ms = .ok (ps, ms')) :
    Keeps schema ms ms' (Filter.keptOfAll filters) (ps.flatMap mentions) (ps.flatMap named) := by
  cases filters with
  | nil =>
    obtain ⟨rfl, rfl⟩ := Prod.mk.inj (pure_eq_ok.mp h)
    exact .nil (Nat.le_refl _)
  | cons filter rest =>
    obtain ⟨p, ms₁, ps, hp, hps, rfl⟩ := ofFilters_cons_eq_ok_iff.mp h
    exact (keeps_ofFilter hs filter hp).append (keeps_ofFilters hs rest hps)

end

end Predicate

/-- A predicate in writing has nothing but what its parts refer to, and of its filter it has what is
kept. -/
structure Rendering.Tight (schema : Schema) (filter : Filter) (ms : Mentions) (w : Rendering) :
    Prop where
  places : w.parts.filterMap Part.place? = List.range w.params.length
  references : w.attributes.map Prod.fst = (w.parts.filterMap Part.index?).eraseDups
  ascending : (w.attributes.map Prod.fst).Pairwise (· < ·)
  bounded : ∀ e ∈ w.attributes, ∃ target, ms.get? e.1 = some ⟨e.1, target⟩ ∧
    schema.lookup e.2 = .ok target ∧
    (target.cardinality = .inline ∨ target.cardinality = .manyToOne)
  kept : w.attributes.map Prod.snd = filter.kept.filter schema.bounded
  sublist : (w.attributes.map Prod.snd).Sublist (filter.attributes.filter schema.bounded)
  complete : Filter.Intact filter.nodes →
    w.attributes.map Prod.snd = filter.attributes.filter schema.bounded
  aspects : w.aspects = sortedNames (filter.kept.map AttributePath.aspect)

theorem Attribute.cardinality_of_bounded {target : Attribute} (h : target.bounded) :
    target.cardinality = .inline ∨ target.cardinality = .manyToOne := by
  rcases bounded_iff.mp h with ⟨column, hstorage⟩ | ⟨foreignKey, valueTable, hstorage⟩
  · exact .inl (congrArg Storage.cardinality hstorage)
  · exact .inr (congrArg Storage.cardinality hstorage)

namespace Predicate

variable {schema : Schema} {options : Options} {ms ms' : Mentions} {p : Predicate}

theorem tight_rendering (hs : schema.Proper) {filter : Filter}
    (h : ofFilter schema options filter ms = .ok (p, ms')) :
    p.rendering.Tight schema filter ms' := by
  obtain ⟨hcompiled, -⟩ := compiled_ofFilter hs filter h
  have hkeeps := keeps_ofFilter hs filter h
  have hindices : p.rendering.attributes.map Prod.fst = p.mentions.map Mention.index :=
    List.map_map
  have hpaths : p.rendering.attributes.map Prod.snd = filter.kept.filter schema.bounded :=
    List.map_map.trans hkeeps.paths
  have hnodup : (p.mentions.map Mention.index).Nodup := hkeeps.ascending.imp Nat.ne_of_lt
  refine ⟨p.places_parts, ?_, hindices ▸ hkeeps.ascending, ?_, hpaths, ?_, fun hintact => ?_, ?_⟩
  · rw [hindices]
    exact (hcompiled.stutters.eraseDups_eq hnodup).symm
  · intro e he
    obtain ⟨m, hm, rfl⟩ := List.mem_map.mp he
    have hknown := hcompiled.known hm
    exact ⟨m.target, hknown.get?, hknown.lookup, Attribute.cardinality_of_bounded hknown.bounded⟩
  · rw [hpaths]
    exact (filter.kept_sublist).filter _
  · rw [hpaths, filter.kept_eq_attributes hintact]
  · exact congrArg sortedNames hkeeps.aspects

/-- Whether a filter has a predicate does not depend on the mentions before it, and what stands in
a filter that has one has one as well. -/
theorem ofFilter_node (hs : schema.Proper) {filter node : Filter} (hnode : node ∈ filter.nodes)
    (h : ofFilter schema options filter ms = .ok (p, ms')) (ms₁ : Mentions) :
    ∃ r, ofFilter schema options node ms₁ = .ok r := by
  have hwell := (exists_ok_iff fun e => ofFilter_eq_error hs filter ms).mp ⟨_, h⟩
  refine (exists_ok_iff fun e => ofFilter_eq_error hs node ms₁).mpr fun n hn => ?_
  exact hwell n (Filter.nodes_subset filter hnode hn)

/-- A filter without a restriction is written with no parts, and leaves the draft as it was but for
the mentions that are numbered. -/
theorem write_of_ofFilter (hs : schema.Proper) {node : Filter} {d : Draft} (hd : d.Sorted)
    (h : ofFilter schema options node d.mentions = .ok (p, ms')) :
    ∃ parts d', Draft.write schema options node d = .ok (parts, d') ∧
      (parts = [] ↔ node.unrestricted) ∧ d.mentions.Extends d'.mentions ∧
      (node.unrestricted → d' = { d with mentions := d'.mentions }) := by
  obtain ⟨-, hunrestricted⟩ := params_ofFilter node h
  have hwrite : Draft.write schema options node d = .ok (d.written (p, ms')) := by
    rw [Draft.write_eq node d hd, h]
    rfl
  have hempty : (d.written (p, ms')).1.isEmpty = node.unrestricted := by
    rw [← hunrestricted, ← p.isEmpty_parts, parts, Segment.isEmpty_number]
    exact Segment.isEmpty_number _ _
  refine ⟨_, _, hwrite, ?_, (compiled_ofFilter hs node h).2, fun hfree => ?_⟩
  · rw [← hempty]
    exact List.isEmpty_iff.symm
  · obtain ⟨_ | c⟩ := p
    · exact Draft.collect_of_blank ⟨rfl, rfl, rfl⟩ hd ms'
    · rw [← hunrestricted] at hfree
      cases hfree

/-- Nothing is left of the operands that are dropped. The predicate of a filter is the one that is
written in one pass, where an OR without a restriction goes back to what was collected before it,
and it has nothing but what its parts refer to. Behind any draft, exactly the filters without a
restriction are written with no parts, and they leave it as it was but for the mentions. -/
theorem dropped_without_trace {definition : SchemaDefinition} {naming : Naming}
    (hschema : Schema.ofDefinition definition naming = .ok schema) {filter : Filter}
    (h : ofFilter schema options filter ms = .ok (p, ms')) :
    Rendering.ofFilter schema options filter ms = .ok (p.rendering, ms') ∧
    p.rendering.Tight schema filter ms' ∧
    ∀ node ∈ filter.nodes, ∀ d : Draft, d.Sorted →
      ∃ parts d', Draft.write schema options node d = .ok (parts, d') ∧
        (parts = [] ↔ node.unrestricted) ∧ d.mentions.Extends d'.mentions ∧
        (node.unrestricted → d' = { d with mentions := d'.mentions }) := by
  have hs := Schema.proper_of_ofDefinition hschema
  refine ⟨?_, tight_rendering hs h, fun node hnode d hd => ?_⟩
  · rw [Rendering.ofFilter_eq, h]
    rfl
  · obtain ⟨⟨q, ms₁⟩, hq⟩ := ofFilter_node hs hnode h d.mentions
    exact write_of_ofFilter hs hd hq

/-- Films with a title and with genres that they share, and studios with a name that they share. -/
def filmsAndStudios : SchemaDefinition where
  aspects := [
    { id := "film"
      attributes := [
        { name := "title", cardinality := .inline, valueType := .string },
        { name := "genre", cardinality := .manyToMany, valueType := .string }] },
    { id := "studio"
      attributes := [{ name := "name", cardinality := .manyToOne, valueType := .string }] }]

def filmAndStudioSchema : Schema := (Schema.ofDefinition filmsAndStudios {}).toOption.getD {}

/-- Of a studio, or without a restriction. -/
def studioFilter : Filter :=
  .combine .or [
    .relational ⟨"studio", "name"⟩ .eq (.text "Brandywine"),
    .combine .and [.combine .or []]]

def titlesFilter : Filter :=
  .combine .and [
    studioFilter,
    .among ⟨"film", "title"⟩ [.text "Alien", .text "Aliens"],
    .empty ⟨"film", "genre"⟩]

/-- The number 0 went to the studio, and is not given to the title. -/
theorem dropped_without_trace_films :
    Schema.ofDefinition filmsAndStudios {} = .ok filmAndStudioSchema ∧
    ∃ p ms, ofFilter filmAndStudioSchema { maxInValues := 1 } titlesFilter {} = .ok (p, ms) ∧
      p.rendering.Tight filmAndStudioSchema titlesFilter ms ∧
      p.rendering.attributes = [(1, ⟨"film", "title"⟩)] ∧
      p.rendering.params = [.text "Alien", .text "Aliens"] ∧
      p.rendering.aspects = ["film"] ∧ ms.size = 2 ∧
      ∀ d : Draft, d.Sorted → ∃ d',
        Draft.write filmAndStudioSchema { maxInValues := 1 } studioFilter d = .ok ([], d') ∧
          d' = { d with mentions := d'.mentions } := by
  have hschema : Schema.ofDefinition filmsAndStudios {} = .ok filmAndStudioSchema := rfl
  obtain ⟨⟨p, ms⟩, hp⟩ : ∃ r, ofFilter filmAndStudioSchema { maxInValues := 1 } titlesFilter {} =
    .ok r := ⟨_, rfl⟩
  obtain ⟨-, htight, hnodes⟩ := dropped_without_trace hschema hp
  have hdropped : ∀ d : Draft, d.Sorted → ∃ d',
      Draft.write filmAndStudioSchema { maxInValues := 1 } studioFilter d = .ok ([], d') ∧
        d' = { d with mentions := d'.mentions } := by
    intro d hd
    have hmem : studioFilter ∈ titlesFilter.nodes := List.mem_cons_of_mem _ List.mem_cons_self
    obtain ⟨parts, d', hwrite, hparts, -, hleft⟩ := hnodes studioFilter hmem d hd
    obtain rfl := hparts.mpr rfl
    exact ⟨d', hwrite, hleft rfl⟩
  cases hp
  exact ⟨hschema, _, _, rfl, htight, rfl, rfl, rfl, rfl, hdropped⟩

end Predicate

end AspectQuery
