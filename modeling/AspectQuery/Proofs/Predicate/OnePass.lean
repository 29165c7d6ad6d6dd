import AspectQuery.Proofs.Predicate.Writing
/-!
# Predicates that are written in one pass

Whatever was collected before, a filter is written behind it as its predicate is. So filters can be
joined first and written afterwards, or written apart and joined in writing.
-/

set_option autoImplicit false

namespace AspectQuery

namespace Draft

section Collected

/-- What a draft has grown to when predicates were written. -/
def collect (d : Draft) (ps : List Predicate) (ms : Mentions) : Draft where
  params := d.params ++ ps.flatMap Predicate.params
  attributes := d.attributes ++ ps.flatMap fun p => p.rendering.attributes
  aspects := sortedNames (d.aspects ++ ps.flatMap Predicate.aspects)
  mentions := ms

/-- The aspects stand in order, each once. -/
def Sorted (d : Draft) : Prop := sortedNames d.aspects = d.aspects

variable {d : Draft} {ps : List Predicate} {p : Predicate} {ms ms' : Mentions}

theorem sorted_collect : (d.collect ps ms).Sorted := sortedNames_sortedNames _

theorem collect_nil (hd : d.Sorted) (ms : Mentions) :
    d.collect [] ms = { d with mentions := ms } := by
  rw [Sorted] at hd
  simp only [collect, List.flatMap_nil, List.append_nil, hd]

theorem rollback_collect (d : Draft) (ps : List Predicate) (ms : Mentions) :
    (d.collect ps ms).rollback d = { d with mentions := ms } := by
  simp [rollback, collect]

theorem collect_of_blank (hp : p.params = [] ∧ p.mentions = [] ∧ p.aspects = []) (hd : d.Sorted)
    (ms : Mentions) : d.collect [p] ms = { d with mentions := ms } := by
  rw [← collect_nil hd]
  simp [collect, Predicate.rendering, hp.1, hp.2.1, hp.2.2]

theorem collect_collect (d : Draft) (p : Predicate) (ps : List Predicate) (ms ms' : Mentions) :
    (d.collect [p] ms).collect ps ms' = d.collect (p :: ps) ms' := by
  have haspects : sortedNames (sortedNames (d.aspects ++ [p].flatMap Predicate.aspects) ++
      ps.flatMap Predicate.aspects) =
        sortedNames (d.aspects ++ (p :: ps).flatMap Predicate.aspects) := by
    rw [sortedNames_sortedNames_append]
    simp
  rw [collect, collect, collect, haspects]
  simp

theorem length_params_collect :
    (d.collect [p] ms).params.length = d.params.length + p.params.length := by
  simp [collect]

end Collected

section Filters

variable {schema : Schema} {options : Options}

/-- A predicate in writing behind a draft. -/
def written (d : Draft) (r : Predicate × Mentions) : List Part × Draft :=
  (Segment.number d.params.length r.1.segments, d.collect [r.1] r.2)

/-- With a restriction it is the text of its condition. -/
theorem written_condition (d : Draft) (c : Condition) (ms : Mentions) :
    d.written (⟨some c⟩, ms) = (Segment.number d.params.length c.segments, {
      params := d.params ++ Segment.params c.segments
      attributes := d.attributes ++ c.mentions.map fun m => (m.index, m.target.path)
      aspects := sortedNames (d.aspects ++ c.aspects)
      mentions := ms }) := by
  have haspects : sortedNames (d.aspects ++ sortedNames c.aspects) =
      sortedNames (d.aspects ++ c.aspects) := sortedNames_append_sortedNames_right _ _
  simp [written, collect, Predicate.segments, Predicate.params, Predicate.rendering,
    Predicate.mentions, Predicate.aspects, haspects]

theorem written_not (d : Draft) (c : Condition) (ms : Mentions) :
    d.written (⟨some (.not c)⟩, ms) =
      (.sql "NOT (" :: (d.written (⟨some c⟩, ms)).1 ++ [.sql ")"],
        (d.written (⟨some c⟩, ms)).2) := by
  have hparts : Segment.number d.params.length (Condition.not c).segments =
      .sql "NOT (" :: Segment.number d.params.length c.segments ++ [.sql ")"] := by
    simp [Condition.segments, Segment.number, Segment.number_append]
  have hparams : Segment.params (Condition.not c).segments = Segment.params c.segments := by
    simp [Condition.segments]
  rw [written_condition, written_condition, hparts, hparams]
  rfl

theorem comparing_eq {write : Attribute → Part → Draft → Except QueryError (List Part × Draft)}
    {test : Attribute → Except QueryError Test} (h : Writes write test) (path : AttributePath)
    (d : Draft) :
    d.comparing schema path write =
      (Predicate.comparing schema path d.mentions test).map d.written := by
  rw [comparing, Predicate.comparing, Predicate.about, find, bind_assoc, map_bind]
  refine bind_congr fun target => ?_
  rw [pure_bind]
  cases hrows : CollectionRows.ofStorage? schema.naming target.storage with
  | none =>
    have hwrite := h target (stands_column (d.mentions.add target).1)
      ((d.need target.aspect).mention target).2
    simp only [Subject.ofAttribute, hrows]
    refine hwrite.trans ?_
    cases test target with
    | error e => rfl
    | ok t =>
      refine congrArg Except.ok ?_
      rw [written_condition, Condition.params_test]
      rfl
  | some rows =>
    have hwrite := h target (stands_sql rows.valueColumn) (d.need target.aspect)
    simp only [Subject.ofAttribute, hrows, hwrite]
    cases test target with
    | error e => rfl
    | ok t =>
      have hparts : Segment.number d.params.length
          (Condition.test (.collection target.path rows) t).segments =
            [.sql rows.existence, .anchor, .sql " AND "] ++
              Segment.number d.params.length (t.segments (.sql rows.valueColumn)) ++
              [.sql ")"] := by
        simp [Condition.segments, Segment.number, Segment.number_append]
      refine congrArg Except.ok ?_
      rw [written_condition, Condition.params_test, hparts]
      simp [need, pushAll, Condition.mentions, Condition.aspects, Subject.mentions, Subject.aspect,
        Attribute.path]

theorem empty_eq (path : AttributePath) (d : Draft) :
    d.empty schema path = (Predicate.about schema path d.mentions fun _ subject =>
      return .isEmpty subject).map d.written := by
  rw [empty, Predicate.about, find, bind_assoc, map_bind]
  refine bind_congr fun target => ?_
  rw [pure_bind]
  cases hrows : CollectionRows.ofStorage? schema.naming target.storage with
  | none =>
    simp only [Subject.ofAttribute, hrows, pure_bind]
    refine congrArg Except.ok ?_
    rw [written_condition]
    simp [mention, need, Condition.segments, Segment.number, Segment.params, Segment.value?,
      Condition.mentions, Condition.aspects, Subject.mentions, Subject.aspect, Mentions.add]
  | some rows =>
    simp only [Subject.ofAttribute, hrows, pure_bind]
    refine congrArg Except.ok ?_
    rw [written_condition]
    simp [need, Condition.segments, Segment.number, Segment.params, Segment.value?,
      Condition.mentions, Condition.aspects, Subject.mentions, Subject.aspect, Attribute.path]

theorem collect_combine {op : Connective} {ps : List Predicate}
    (h : ¬(op = .or ∧ ps.any Predicate.isUnrestricted)) (d : Draft) (ms : Mentions) :
    d.collect [Predicate.combine op ps] ms = d.collect ps ms := by
  have hmentions : (Predicate.combine op ps).mentions = ps.flatMap Predicate.mentions :=
    Predicate.flatMap_combine Condition.mentionsOfAll_eq h
  have haspects : (Predicate.combine op ps).aspects =
      sortedNames (ps.flatMap Predicate.aspects) := by
    rw [Predicate.aspects, Predicate.flatMap_combine Condition.aspectsOfAll_eq h]
    exact sortedNames_congr fun a => by simp [mem_sortedNames, Predicate.aspects]
  have hsorted : sortedNames (d.aspects ++ sortedNames (ps.flatMap Predicate.aspects)) =
      sortedNames (d.aspects ++ ps.flatMap Predicate.aspects) :=
    sortedNames_append_sortedNames_right _ _
  simp only [collect, List.flatMap_singleton, Predicate.params_combine, if_neg h,
    Predicate.rendering, hmentions, haspects, hsorted, List.map_flatMap]

theorem filter_numberAll (n : Nat) (ps : List Predicate) :
    ((Segment.numberAll n (ps.map Predicate.segments)).filter fun ps => !ps.isEmpty) =
      Segment.numberAll n ((ps.filterMap Predicate.condition).map Condition.segments) := by
  induction ps generalizing n with
  | nil => rfl
  | cons p ps ih =>
    obtain ⟨_ | c⟩ := p
    · exact ih n
    · have hcons : Segment.numberAll n (((⟨some c⟩ : Predicate) :: ps).map Predicate.segments) =
          Segment.number n c.segments :: Segment.numberAll (n + (Segment.params c.segments).length)
            (ps.map Predicate.segments) := rfl
      rw [hcons, List.filter_cons_of_pos (by simp [c.isEmpty_number]), ih]
      rfl

theorem any_isEmpty_numberAll (n : Nat) (ps : List Predicate) :
    (Segment.numberAll n (ps.map Predicate.segments)).any List.isEmpty =
      ps.any Predicate.isUnrestricted := by
  induction ps generalizing n with
  | nil => rfl
  | cons p ps ih =>
    rw [List.map_cons, Segment.numberAll, List.any_cons, List.any_cons, ih, Segment.isEmpty_number,
      ← Predicate.isEmpty_parts, Predicate.parts, Segment.isEmpty_number]

theorem number_combine {op : Connective} {ps : List Predicate}
    (h : ¬(op = .or ∧ ps.any Predicate.isUnrestricted)) (n : Nat) :
    Segment.number n (Predicate.combine op ps).segments = Part.junction op
      ((Segment.numberAll n (ps.map Predicate.segments)).filter fun ps => !ps.isEmpty) := by
  rw [filter_numberAll, Predicate.combine, if_neg h]
  split
  · rename_i hnil
    rw [hnil]
    rfl
  · rename_i c hc
    rw [hc]
    rfl
  · rename_i hnil hone
    cases hcs : ps.filterMap Predicate.condition with
    | nil => exact absurd hcs hnil
    | cons c rest =>
      cases rest with
      | nil => exact absurd hcs (hone c)
      | cons c' rest =>
        have hjunction :=
          Segment.number_enclosed op.sql n ((c :: c' :: rest).map Condition.segments)
        rw [← Condition.segmentsOfAll_eq] at hjunction ⊢
        exact hjunction

theorem clusters_itemIds (vss : List (List Value)) (d : Draft) :
    clusters pure .anchor vss d = .ok
      (Segment.numberAll d.params.length (vss.map (cluster .anchor)), d.pushAll vss.flatten) := by
  have hvalues (vs : List Value) : vs.mapM (pure : Value → Except QueryError Value) = .ok vs :=
    (mapM_eq_ok_map fun _ _ => rfl).trans (congrArg Except.ok (List.map_id vs))
  have hall : vss.mapM (List.mapM (pure : Value → Except QueryError Value)) = .ok vss :=
    (mapM_eq_ok_map fun vs _ => hvalues vs).trans (congrArg Except.ok (List.map_id vss))
  rw [clusters_eq stands_anchor, hall]
  rfl

theorem written_itemIds {d : Draft} (hd : d.Sorted) (chunks : List (List ItemId)) :
    d.written (⟨some (.itemIds chunks)⟩, d.mentions) =
      (Part.grouped Connective.or.sql (Segment.numberAll d.params.length
          ((chunks.map fun ids => ids.map Value.id).map (cluster .anchor))),
        d.pushAll (chunks.map fun ids => ids.map Value.id).flatten) := by
  have hparts : Segment.number d.params.length (Condition.itemIds chunks).segments =
      Part.grouped Connective.or.sql (Segment.numberAll d.params.length
        ((chunks.map fun ids => ids.map Value.id).map (cluster .anchor))) :=
    Segment.number_grouped _ _ _
  have hparams : Segment.params (Condition.itemIds chunks).segments =
      (chunks.map fun ids => ids.map Value.id).flatten := Segment.params_membership rfl _
  rw [written_condition, hparts, hparams]
  rw [Sorted] at hd
  simp [pushAll, Condition.mentions, Condition.aspects, hd]

mutual

/-- Whatever is there already, a filter is written behind it as its predicate is. -/
theorem write_eq (filter : Filter) (d : Draft) (hd : d.Sorted) :
    write schema options filter d =
      (Predicate.ofFilter schema options filter d.mentions).map d.written := by
  cases filter with
  | combine op operands =>
    -- An OR that restricts nothing goes back to the draft before it, which has to be in order.
    rw [write, Predicate.ofFilter, writeAll_eq operands d hd, bind_map, map_bind]
    refine bind_congr fun ⟨ps, ms⟩ => ?_
    dsimp only
    rw [any_isEmpty_numberAll]
    split
    · rename_i hor
      have hcombine : Predicate.combine op ps = .unrestricted := if_pos hor
      refine congrArg Except.ok ?_
      rw [rollback_collect, written, hcombine, collect_of_blank ⟨rfl, rfl, rfl⟩ hd]
      rfl
    · rename_i hor
      refine congrArg Except.ok ?_
      rw [written, collect_combine hor, number_combine hor]
  | not filter =>
    rw [write, Predicate.ofFilter, write_eq filter d hd, bind_map, map_bind]
    refine bind_congr fun ⟨p, ms⟩ => ?_
    obtain ⟨_ | c⟩ := p
    · rfl
    · have hwritten : d.written (⟨some c⟩, ms) =
          (Segment.number d.params.length c.segments, d.collect [⟨some c⟩] ms) := rfl
      rw [hwritten]
      dsimp only
      rw [c.isEmpty_number]
      exact congrArg Except.ok (written_not d c ms).symm
  | empty path => exact empty_eq path d
  | relational path op v => exact comparing_eq (writes_relational op v) path d
  | like path pattern escape caseSensitive =>
    exact comparing_eq (writes_like pattern escape caseSensitive) path d
  | similarTo path pattern escape =>
    exact comparing_eq (writes_similarTo options pattern escape) path d
  | between path low high => exact comparing_eq (writes_between low high) path d
  | among path vs => exact comparing_eq (writes_among options vs) path d
  | itemIds ids =>
    rw [write, Predicate.ofFilter]
    split
    · refine congrArg Except.ok ?_
      rw [written, collect_of_blank ⟨rfl, rfl, rfl⟩ hd]
      rfl
    · rw [clusters_itemIds]
      refine congrArg Except.ok ?_
      rw [written_itemIds hd]
  | never =>
    refine congrArg Except.ok ?_
    rw [written, collect_of_blank ⟨rfl, rfl, rfl⟩ hd]
    rfl

theorem writeAll_eq (filters : List Filter) (d : Draft) (hd : d.Sorted) :
    writeAll schema options filters d =
      (Predicate.ofFilters schema options filters d.mentions).map fun r =>
        (Segment.numberAll d.params.length (r.1.map Predicate.segments), d.collect r.1 r.2) := by
  cases filters with
  | nil =>
    refine congrArg Except.ok ?_
    dsimp only
    rw [collect_nil hd]
    rfl
  | cons filter rest =>
    rw [writeAll, Predicate.ofFilters, write_eq filter d hd, bind_map, map_bind]
    refine bind_congr fun ⟨p, ms⟩ => ?_
    dsimp only [written]
    rw [writeAll_eq rest (d.collect [p] ms) sorted_collect, bind_map, map_bind]
    refine bind_congr fun ⟨ps, ms'⟩ => ?_
    dsimp only
    rw [collect_collect, length_params_collect]
    rfl

end

end Filters

end Draft

section Joined

variable (schema : Schema) (options : Options)

theorem Rendering.ofFilter_eq (filter : Filter) (ms : Mentions) :
    Rendering.ofFilter schema options filter ms =
      (Predicate.ofFilter schema options filter ms).map fun r => (r.1.rendering, r.2) := by
  have hstart : ({ mentions := ms } : Draft).Sorted := rfl
  rw [ofFilter, Draft.write_eq filter _ hstart, bind_map]
  cases Predicate.ofFilter schema options filter ms with
  | error e => rfl
  | ok r =>
    obtain ⟨p, ms'⟩ := r
    refine congrArg Except.ok ?_
    have haspects : sortedNames p.aspects = p.aspects := sortedNames_sortedNames _
    simp [Draft.collect, Predicate.rendering, Predicate.parts, haspects]

/-- The predicate of a filter in writing; without a filter there is nothing written. -/
def Rendering.ofFilter? (filter : Option Filter) (ms : Mentions) :
    Except QueryError (Rendering × Mentions) :=
  match filter with
  | none => .ok ({}, ms)
  | some filter => ofFilter schema options filter ms

theorem Rendering.ofFilter?_eq (filter : Option Filter) (ms : Mentions) :
    Rendering.ofFilter? schema options filter ms =
      (Predicate.ofFilter? schema options filter ms).map fun r => (r.1.rendering, r.2) := by
  cases filter with
  | none => rfl
  | some filter => exact Rendering.ofFilter_eq schema options filter ms

theorem Predicate.ofFilter_and (f g : Filter) (ms : Mentions) :
    ofFilter schema options (.combine .and [f, g]) ms = (do
      let (p, ms) ← ofFilter schema options f ms
      let (q, ms) ← ofFilter schema options g ms
      return (p.conjoin q, ms)) := by
  simp only [ofFilter, ofFilters, bind_assoc, pure_bind]
  rfl

/-- Joining two predicates gives the predicate of both filters, and the same holds of predicates in
writing, where the first way writes them apart and the second way in one pass. -/
theorem conjoined_filters (f g : Filter) (ms : Mentions) :
    let joined : Except QueryError (Predicate × Mentions) := do
      let (p, ms) ← Predicate.ofFilter schema options f ms
      let (q, ms) ← Predicate.ofFilter schema options g ms
      return (p.conjoin q, ms)
    let joinedInWriting : Except QueryError (Rendering × Mentions) := do
      let (v, ms) ← Rendering.ofFilter schema options f ms
      let (w, ms) ← Rendering.ofFilter schema options g ms
      return (v.conjoin w, ms)
    joined = Predicate.ofFilter schema options (.combine .and [f, g]) ms ∧
      joined.map (fun r => (r.1.rendering, r.2)) =
        Rendering.ofFilter schema options (.combine .and [f, g]) ms ∧
      joinedInWriting = Rendering.ofFilter schema options (.combine .and [f, g]) ms := by
  intro joined joinedInWriting
  have hjoined : joined = Predicate.ofFilter schema options (.combine .and [f, g]) ms :=
    (Predicate.ofFilter_and schema options f g ms).symm
  have hwritten : joined.map (fun r => (r.1.rendering, r.2)) =
      Rendering.ofFilter schema options (.combine .and [f, g]) ms := by
    rw [hjoined, Rendering.ofFilter_eq]
  have hboth : joinedInWriting = joined.map fun r => (r.1.rendering, r.2) := by
    simp only [joined, joinedInWriting, Rendering.ofFilter_eq, bind_map, map_bind]
    refine bind_congr fun r => bind_congr fun r' => ?_
    exact congrArg (fun v => Except.ok (v, r'.2)) (r.1.rendering_conjoin r'.1).symm
  exact ⟨hjoined, hwritten, hboth.trans hwritten⟩

end Joined

end AspectQuery
