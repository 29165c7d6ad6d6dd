import AspectQuery.Proofs.Predicate.Parameters
/-!
# The shape of filters

A filter is blanked when null stands in the place of each value and its patterns and ids are all the
same. What is left is its shape. The blanked filter has the blanked predicate, and the text of a
predicate does not change with it.
-/

set_option autoImplicit false

namespace AspectQuery

def ItemId.blank : ItemId := ⟨List.replicate 32 0, List.length_replicate⟩

namespace Filter

mutual

/-- The filter without its values, patterns and ids. -/
def blank : Filter → Filter
  | .combine op operands => .combine op (blankAll operands)
  | .not filter => .not filter.blank
  | .empty path => .empty path
  | .relational path op _ => .relational path op .null
  | .like path _ escape caseSensitive => .like path "" escape caseSensitive
  | .similarTo path _ escape => .similarTo path "" escape
  | .between path _ _ => .between path .null .null
  | .among path values => .among path (values.map fun _ => .null)
  | .itemIds ids => .itemIds (ids.map fun _ => ItemId.blank)
  | .never => .never

def blankAll : List Filter → List Filter
  | [] => []
  | filter :: rest => filter.blank :: blankAll rest

end

/-- The filters differ at most in their values, patterns and ids. -/
def SameShape (filter filter' : Option Filter) : Prop := filter.map blank = filter'.map blank

end Filter

def Test.blank : Test → Test
  | .relational op _ => .relational op .null
  | .like _ escape caseSensitive => .like "" escape caseSensitive
  | .similarTo _ escape => .similarTo "" escape
  | .between _ _ => .between .null .null
  | .among chunks => .among (chunks.map fun values => values.map fun _ => .null)

namespace Condition

mutual

def blank : Condition → Condition
  | .never => .never
  | .not c => .not c.blank
  | .junction op operands => .junction op (blankAll operands)
  | .isEmpty s => .isEmpty s
  | .test s t => .test s t.blank
  | .itemIds chunks => .itemIds (chunks.map fun ids => ids.map fun _ => ItemId.blank)

def blankAll : List Condition → List Condition
  | [] => []
  | c :: rest => c.blank :: blankAll rest

end

theorem blankAll_eq (cs : List Condition) : blankAll cs = cs.map blank := by
  induction cs with
  | nil => rfl
  | cons c cs ih => rw [blankAll, ih, List.map_cons]

mutual

theorem mentions_blank (c : Condition) : c.blank.mentions = c.mentions := by
  cases c with
  | not c => exact mentions_blank c
  | junction op cs => exact mentionsOfAll_blank cs
  | _ => rfl

theorem mentionsOfAll_blank (cs : List Condition) :
    mentionsOfAll (blankAll cs) = mentionsOfAll cs := by
  cases cs with
  | nil => rfl
  | cons c cs => rw [blankAll, mentionsOfAll, mentionsOfAll, mentions_blank c,
      mentionsOfAll_blank cs]

end

end Condition

namespace Segment

def blank : Segment → Segment
  | .value _ => .value .null
  | s => s

theorem length_params_blank (ss : List Segment) :
    (params (ss.map blank)).length = (params ss).length := by
  induction ss with
  | nil => rfl
  | cons s ss ih =>
    cases s with
    | value v => exact congrArg Nat.succ ih
    | _ => exact ih

theorem map_blank_separated (separator : String) (sss : List (List Segment)) :
    (separated separator sss).map blank = separated separator (sss.map (List.map blank)) := by
  induction sss with
  | nil => rfl
  | cons ss rest ih =>
    cases rest with
    | nil => rfl
    | cons ts rest =>
      calc (separated separator (ss :: ts :: rest)).map blank
          = ss.map blank ++ .sql separator :: (separated separator (ts :: rest)).map blank :=
            List.map_append
        _ = separated separator ((ss :: ts :: rest).map (List.map blank)) := by
            rw [ih]
            rfl

theorem map_blank_grouped (separator : String) (sss : List (List Segment)) :
    (grouped separator sss).map blank = grouped separator (sss.map (List.map blank)) := by
  match sss with
  | [] => rfl
  | [ss] => rfl
  | ss :: ts :: rest =>
    simp only [grouped, List.map_append, List.map_cons, map_blank_separated, List.map_nil]
    rfl

/-- Only the numbers of the values show in the text. -/
theorem map_blank_membership (operand : Segment) (chunks : List (List Value))
    (f : Value → Value) :
    (membership operand (chunks.map (List.map f))).map blank =
      (membership operand chunks).map blank := by
  simp only [membership, map_blank_grouped, List.map_map]
  refine congrArg (grouped _) (List.map_congr_left fun vs _ => ?_)
  simp only [Function.comp_apply, List.map_append, map_blank_separated, List.map_map]
  rfl

end Segment

namespace Test

theorem map_blank_segments (t : Test) (operand : Segment) :
    (t.blank.segments operand).map Segment.blank = (t.segments operand).map Segment.blank := by
  cases t with
  | like pattern escape caseSensitive =>
    cases caseSensitive <;> simp [blank, segments, Segment.blank]
  | similarTo pattern escape => simp [blank, segments, Segment.blank]
  | among chunks => exact Segment.map_blank_membership operand chunks fun _ => .null
  | _ => rfl

end Test

namespace Condition

mutual

theorem map_blank_segments (c : Condition) :
    c.blank.segments.map Segment.blank = c.segments.map Segment.blank := by
  cases c with
  | not c => simp only [blank, segments, List.map_cons, List.map_append, map_blank_segments c]
  | junction op cs =>
    simp only [blank, segments, List.map_cons, List.map_append, Segment.map_blank_separated,
      map_blank_segmentsOfAll cs]
  | test s t =>
    cases s with
    | column m => exact t.map_blank_segments (.column m)
    | collection path rows =>
      simp only [blank, segments, List.map_append, t.map_blank_segments (.sql rows.valueColumn)]
  | itemIds chunks =>
    have hchunks : (chunks.map fun ids => ids.map fun _ => ItemId.blank).map
        (fun ids => ids.map Value.id) =
          (chunks.map fun ids => ids.map Value.id).map
            (List.map fun _ => Value.id ItemId.blank) := by
      simp only [List.map_map]
      refine List.map_congr_left fun ids _ => ?_
      simp only [Function.comp_apply, List.map_map]
      rfl
    rw [blank, segments, segments, hchunks]
    exact Segment.map_blank_membership .anchor _ _
  | _ => rfl

theorem map_blank_segmentsOfAll (cs : List Condition) :
    (segmentsOfAll (blankAll cs)).map (List.map Segment.blank) =
      (segmentsOfAll cs).map (List.map Segment.blank) := by
  cases cs with
  | nil => rfl
  | cons c cs =>
    rw [blankAll, segmentsOfAll, segmentsOfAll, List.map_cons, List.map_cons,
      map_blank_segments c, map_blank_segmentsOfAll cs]

end

end Condition

theorem chunksWithin_map {α β : Type} (f : α → β) (size steps : Nat) (xs : List α) :
    chunksWithin size steps (xs.map f) = (chunksWithin size steps xs).map (List.map f) := by
  induction steps generalizing xs with
  | zero => rfl
  | succ steps ih =>
    cases xs with
    | nil => rfl
    | cons x xs =>
      have hdrop := ih ((x :: xs).drop size)
      rw [List.map_drop, List.map_cons] at hdrop
      rw [List.map_cons, chunksWithin, chunksWithin, hdrop, List.map_cons, List.map_take,
        List.map_cons]

theorem Options.chunks_map {α β : Type} (o : Options) (f : α → β) (xs : List α) :
    o.chunks (xs.map f) = (o.chunks xs).map (List.map f) := by
  rw [chunks, chunksWithin_map, List.length_map, chunks]

namespace Predicate

def blank (p : Predicate) : Predicate := ⟨p.condition.map Condition.blank⟩

theorem isUnrestricted_blank (p : Predicate) : p.blank.isUnrestricted = p.isUnrestricted := by
  simp [isUnrestricted, blank]

theorem blank_negation (p : Predicate) : p.negation.blank = p.blank.negation := by
  obtain ⟨_ | c⟩ := p <;> rfl

theorem blank_combine (op : Connective) (ps : List Predicate) :
    (combine op ps).blank = combine op (ps.map blank) := by
  have hany : (ps.map blank).any isUnrestricted = ps.any isUnrestricted := by
    simp only [List.any_map, Function.comp_def, isUnrestricted_blank]
  have hconditions : (ps.map blank).filterMap condition =
      (ps.filterMap condition).map Condition.blank := by
    rw [List.filterMap_map, List.map_filterMap]
    rfl
  unfold combine
  rw [hany, hconditions]
  split
  · rfl
  · match ps.filterMap condition with
    | [] => rfl
    | [c] => rfl
    | c :: d :: cs => simp [blank, Condition.blank, Condition.blankAll_eq]

variable {schema : Schema} {options : Options} {ms ms' : Mentions} {p : Predicate}

theorem about_blank {path : AttributePath}
    {condition condition' : Attribute → Subject → Except QueryError Condition}
    (h : about schema path ms condition = .ok (p, ms'))
    (hblank : ∀ target subject c, condition target subject = .ok c →
      condition' target subject = .ok c.blank) :
    about schema path ms condition' = .ok (p.blank, ms') := by
  obtain ⟨target, c, hlookup, hc, rfl, rfl⟩ := about_eq_ok_iff.mp h
  exact about_eq_ok_iff.mpr ⟨target, c.blank, hlookup, hblank _ _ _ hc, rfl, rfl⟩

theorem comparing_blank {path : AttributePath} {test test' : Attribute → Except QueryError Test}
    (h : comparing schema path ms test = .ok (p, ms'))
    (hblank : ∀ target t, test target = .ok t → test' target = .ok t.blank) :
    comparing schema path ms test' = .ok (p.blank, ms') := by
  refine about_blank h fun target subject c hc => ?_
  simp only [bind_eq_ok, pure_eq_ok] at hc ⊢
  obtain ⟨t, ht, rfl⟩ := hc
  exact ⟨t.blank, hblank target t ht, rfl⟩

/-- Null has every type. -/
theorem filterValue_null (target : Attribute) : target.filterValue .null = .ok .null := rfl

theorem mapM_filterValue_null {target : Attribute} {vs us : List Value}
    (h : vs.mapM target.filterValue = .ok us) :
    (vs.map fun _ => Value.null).mapM target.filterValue = .ok (us.map fun _ => Value.null) := by
  induction vs generalizing us with
  | nil =>
    obtain rfl := pure_eq_ok.mp h
    rfl
  | cons v vs ih =>
    obtain ⟨u, -, us, hus, rfl⟩ := mapM_cons_eq_ok.mp h
    exact mapM_cons_eq_ok.mpr ⟨.null, filterValue_null target, _, ih hus, rfl⟩

mutual

/-- A blanked filter has the blanked predicate, with the same mentions. -/
theorem ofFilter_blank (filter : Filter) {ms ms' : Mentions} {p : Predicate}
    (h : ofFilter schema options filter ms = .ok (p, ms')) :
    ofFilter schema options filter.blank ms = .ok (p.blank, ms') := by
  cases filter with
  | combine op operands =>
    obtain ⟨ps, hps, rfl⟩ := ofFilter_combine_eq_ok_iff.mp h
    rw [Filter.blank]
    exact ofFilter_combine_eq_ok_iff.mpr
      ⟨ps.map blank, ofFilters_blank operands hps, (blank_combine op ps).symm⟩
  | not filter =>
    obtain ⟨q, hq, rfl⟩ := ofFilter_not_eq_ok_iff.mp h
    have hnegation : (⟨some q.blank.negation⟩ : Predicate) = blank ⟨some q.negation⟩ := by
      rw [← blank_negation]
      rfl
    rw [Filter.blank]
    exact ofFilter_not_eq_ok_iff.mpr ⟨q.blank, ofFilter_blank filter hq, hnegation⟩
  | empty path =>
    refine about_blank h fun target subject c hc => ?_
    obtain rfl := pure_eq_ok.mp hc
    rfl
  | relational path op v =>
    refine comparing_blank h fun target t ht => ?_
    simp only [bind_eq_ok, pure_eq_ok] at ht ⊢
    obtain ⟨u, -, rfl⟩ := ht
    exact ⟨.null, filterValue_null target, rfl⟩
  | like path pattern escape caseSensitive =>
    refine comparing_blank h fun target t ht => ?_
    obtain rfl := pure_eq_ok.mp ht
    rfl
  | similarTo path pattern escape =>
    refine comparing_blank h fun target t ht => ?_
    obtain ⟨hsupports, rfl⟩ := similarTo_eq_ok_iff.mp ht
    exact similarTo_eq_ok_iff.mpr ⟨hsupports, rfl⟩
  | between path low high =>
    refine comparing_blank h fun target t ht => ?_
    simp only [bind_eq_ok, pure_eq_ok] at ht ⊢
    obtain ⟨l, -, u, -, rfl⟩ := ht
    exact ⟨.null, filterValue_null target, .null, filterValue_null target, rfl⟩
  | among path vs =>
    refine comparing_blank h fun target t ht => ?_
    obtain ⟨hvs, us, hus, rfl⟩ := among_eq_ok_iff.mp ht
    refine among_eq_ok_iff.mpr ⟨mt List.map_eq_nil_iff.mp hvs, _, mapM_filterValue_null hus, ?_⟩
    rw [Test.blank, options.chunks_map]
  | itemIds ids =>
    simp only [Filter.blank, ofFilter, List.isEmpty_map] at h ⊢
    split at h
    · rename_i hempty
      obtain ⟨rfl, rfl⟩ := Prod.mk.inj (pure_eq_ok.mp h)
      rw [if_pos hempty]
      rfl
    · rename_i hempty
      obtain ⟨rfl, rfl⟩ := Prod.mk.inj (pure_eq_ok.mp h)
      rw [if_neg hempty, options.chunks_map]
      rfl
  | never =>
    obtain ⟨rfl, rfl⟩ := Prod.mk.inj (pure_eq_ok.mp h)
    rfl

theorem ofFilters_blank (filters : List Filter) {ms ms' : Mentions} {ps : List Predicate}
    (h : ofFilters schema options filters ms = .ok (ps, ms')) :
    ofFilters schema options (Filter.blankAll filters) ms = .ok (ps.map blank, ms') := by
  cases filters with
  | nil =>
    obtain ⟨rfl, rfl⟩ := Prod.mk.inj (pure_eq_ok.mp h)
    rfl
  | cons filter rest =>
    obtain ⟨p, ms₁, ps, hp, hps, rfl⟩ := ofFilters_cons_eq_ok_iff.mp h
    rw [Filter.blankAll]
    exact ofFilters_cons_eq_ok_iff.mpr
      ⟨p.blank, ms₁, ps.map blank, ofFilter_blank filter hp, ofFilters_blank rest hps, rfl⟩

end

/-- The predicates differ at most in their values. -/
def Alike (p p' : Predicate) : Prop := p.blank = p'.blank

/-- Filters of the same shape have predicates that are alike. -/
theorem alike_ofFilter? {filter filter' : Option Filter} (hshape : Filter.SameShape filter filter')
    {ms₁ ms₂ : Mentions} {p' : Predicate} (h : ofFilter? schema options filter ms = .ok (p, ms₁))
    (h' : ofFilter? schema options filter' ms = .ok (p', ms₂)) : p.Alike p' ∧ ms₁ = ms₂ := by
  cases filter with
  | none =>
    cases filter' with
    | none =>
      obtain ⟨rfl, rfl⟩ := Prod.mk.inj (Except.ok.inj h)
      obtain ⟨rfl, rfl⟩ := Prod.mk.inj (Except.ok.inj h')
      exact ⟨rfl, rfl⟩
    | some filter' => simp [Filter.SameShape] at hshape
  | some filter =>
    cases filter' with
    | none => simp [Filter.SameShape] at hshape
    | some filter' =>
      have hblank := ofFilter_blank filter h
      rw [Option.some.inj hshape, ofFilter_blank filter' h'] at hblank
      obtain ⟨hp, hms⟩ := Prod.mk.inj (Except.ok.inj hblank)
      exact ⟨hp.symm, hms.symm⟩

namespace Alike

variable {p' : Predicate}

theorem segments (h : p.Alike p') :
    p.segments.map Segment.blank = p'.segments.map Segment.blank := by
  have hsegments : ∀ q : Predicate,
      q.blank.segments.map Segment.blank = q.segments.map Segment.blank := by
    rintro ⟨_ | c⟩
    · rfl
    · exact c.map_blank_segments
  rw [← hsegments p, h, hsegments p']

theorem mentions (h : p.Alike p') : p.mentions = p'.mentions := by
  have hmentions : ∀ q : Predicate, q.blank.mentions = q.mentions := by
    rintro ⟨_ | c⟩
    · rfl
    · exact c.mentions_blank
  rw [← hmentions p, h, hmentions p']

theorem length_params (h : p.Alike p') : p.params.length = p'.params.length := by
  rw [Predicate.params, Predicate.params, ← Segment.length_params_blank p.segments, h.segments,
    Segment.length_params_blank]

theorem conjoin {q q' : Predicate} (h : p.Alike p') (hq : q.Alike q') :
    (p.conjoin q).Alike (p'.conjoin q') := by
  simp only [Alike, Predicate.conjoin, blank_combine, List.map_cons, List.map_nil]
  rw [h, hq]

end Alike

end Predicate

end AspectQuery
