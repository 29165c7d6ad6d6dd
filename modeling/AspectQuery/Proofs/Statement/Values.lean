import AspectQuery.Proofs.Statement.Names
/-!
# The statements of values

Where all that is asked for is known, the statements for the distinct values and for the numbers of
items by value can be written, and every selected attribute has an output in them.
-/

set_option autoImplicit false

namespace AspectQuery

namespace Primary

theorem orderByAll_total {p : JoinPlan} (order : List Sql.OrderKey) {select : List Mention}
    (h : ∀ m ∈ select, ∃ c, p.Finds m c) : ∃ keys, orderByAll p order select = .ok keys := by
  refine foldlM_total order fun order m hm => ?_
  obtain ⟨c, d, hd, hc⟩ := h m hm
  exact ⟨_, by simp only [hd, hc]; rfl⟩

section

variable {schema : Schema} {ms : Mentions} {predicate : Predicate} {q : Primary}
  {aliases : Aliases AliasKey}

/-- A frame of a primary statement that has a column for every selected attribute. -/
theorem finds_of_known (h : q.Known schema ms predicate) (hs : schema.Proper)
    (haliases : aliases.Sound) :
    ∃ f, q.frame schema predicate aliases = .ok f ∧ ∀ m ∈ q.select, ∃ c, f.plan.Finds m c := by
  obtain ⟨ops, db, hdb⟩ := exists_keyed schema
  obtain ⟨f, hframe, hf⟩ := fits_frame h hdb hs haliases
  exact ⟨f, hframe, fun m hm => ⟨_, hf.finds (h.select m hm) (hf.select m hm)⟩⟩

theorem distinct_total (h : q.Known schema ms predicate) (hs : schema.Proper)
    (haliases : aliases.Sound) :
    ∃ s aliases', q.distinct schema predicate aliases = .ok (s, aliases') ∧
      ∀ m ∈ q.select, ∃ a, s.attributes.lookup m.index = some a := by
  obtain ⟨f, hframe, hfinds⟩ := finds_of_known h hs haliases
  obtain ⟨columns, attributes, p, hattributes, -, hnew⟩ :=
    JoinPlan.outputAttributes_eq_ok q.select [] hfinds
  have hnamed := named_of_frame h hs haliases hframe
  obtain ⟨-, -, -, htables, hcolumns⟩ :=
    JoinPlan.plain_outputAttributes hnamed.sound hnamed.select (by simp) hattributes
  have hfinds' : ∀ m ∈ q.select, ∃ c, p.Finds m c := by
    intro m hm
    simpa only [JoinPlan.Finds, JoinPlan.column?, htables, hcolumns] using hfinds m hm
  obtain ⟨keys, hkeys⟩ := orderByAll_total f.order hfinds'
  refine ⟨_, _, distinct_eq_ok_iff.mpr ⟨f, hframe, _, _, _, hattributes, keys, hkeys, rfl, rfl⟩,
    fun m hm => ?_⟩
  obtain ⟨a, -, ha, -⟩ := hnew m hm rfl
  exact ⟨a, ha⟩

theorem grouped_total (h : q.Known schema ms predicate) (hs : schema.Proper)
    (haliases : aliases.Sound) :
    ∃ s aliases', q.grouped schema predicate aliases = .ok (s, aliases') ∧
      ∀ m ∈ q.select, ∃ a, s.attributes.lookup m.index = some a := by
  obtain ⟨f, hframe, hfinds⟩ := finds_of_known h hs haliases
  obtain ⟨columns, attributes, p, hattributes, -, hnew⟩ := JoinPlan.outputAttributes_eq_ok q.select
    [] (p := (f.plan.allot .itemId AliasKey.columnStem).2) hfinds
  refine ⟨_, _, grouped_eq_ok_iff.mpr ⟨f, hframe, _, _, _, hattributes, rfl, rfl⟩, fun m hm => ?_⟩
  obtain ⟨a, -, ha, -⟩ := hnew m hm rfl
  exact ⟨a, ha⟩

end

end Primary

namespace Collection

section

variable {schema : Schema} {ms : Mentions} {predicate : Predicate} {target : Attribute}
  {necessary : List AspectId} {aliases : Aliases AliasKey}

theorem frame_total (h : Known schema ms predicate target necessary) (hs : schema.Proper)
    (haliases : aliases.Sound) :
    ∃ f, frame schema predicate target necessary aliases = .ok f := by
  obtain ⟨ops, db, hdb⟩ := exists_keyed schema
  obtain ⟨f, hframe, -⟩ := fits_frame h hdb hs haliases
  exact ⟨f, hframe⟩

theorem distinct_total (h : Known schema ms predicate target necessary) (hs : schema.Proper)
    (haliases : aliases.Sound) :
    ∃ r, distinct schema predicate target necessary aliases = .ok r := by
  obtain ⟨f, hframe⟩ := frame_total h hs haliases
  exact ⟨_, bind_eq_ok.mpr ⟨f, hframe, rfl⟩⟩

theorem grouped_total (h : Known schema ms predicate target necessary) (hs : schema.Proper)
    (haliases : aliases.Sound) :
    ∃ r, grouped schema predicate target necessary aliases = .ok r := by
  obtain ⟨f, hframe⟩ := frame_total h hs haliases
  exact ⟨_, bind_eq_ok.mpr ⟨f, hframe, rfl⟩⟩

end

end Collection

end AspectQuery
