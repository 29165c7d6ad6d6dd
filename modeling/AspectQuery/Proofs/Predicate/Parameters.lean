import AspectQuery.Proofs.Predicate.Compilation
/-!
# The parameters of predicates

The parameters of a predicate are the values of its filter from left to right. An OR that restricts
nothing is left out with all its values.
-/

set_option autoImplicit false

namespace AspectQuery

namespace Filter

mutual

/-- The filter drops out of a predicate: an OR already for one such operand, an AND for no other. -/
def unrestricted : Filter → Bool
  | .combine .or operands => operands.isEmpty || (unrestrictedOfAll operands).any id
  | .combine .and operands => (unrestrictedOfAll operands).all id
  | _ => false

def unrestrictedOfAll : List Filter → List Bool
  | [] => []
  | filter :: rest => filter.unrestricted :: unrestrictedOfAll rest

end

section

variable (schema : Schema)

/-- A value with the type of the attribute with which it is compared. -/
def coerced (path : AttributePath) (v : Value) : Value :=
  match schema.lookup path with
  | .ok target => target.parameter v
  | .error _ => .null

mutual

/-- The values, patterns and ids of a filter in the order of the tree. -/
def parameters : Filter → List Value
  | .combine .or operands =>
    if (combine .or operands).unrestricted then [] else parametersOfAll operands
  | .combine .and operands => parametersOfAll operands
  | .not filter => filter.parameters
  | .empty _ => []
  | .relational path _ v => [coerced schema path v]
  | .like _ pattern _ _ => [.text pattern]
  | .similarTo _ pattern _ => [.text pattern]
  | .between path low high => [coerced schema path low, coerced schema path high]
  | .among path vs => vs.map (coerced schema path)
  | .itemIds ids => ids.map .id
  | .never => []

def parametersOfAll : List Filter → List Value
  | [] => []
  | filter :: rest => filter.parameters ++ parametersOfAll rest

end

def parameters? : Option Filter → List Value
  | none => []
  | some filter => filter.parameters schema

end

end Filter

def Test.values : Test → List Value
  | .relational _ v => [v]
  | .like pattern _ _ => [.text pattern]
  | .similarTo pattern _ => [.text pattern]
  | .between low high => [low, high]
  | .among chunks => chunks.flatten

/-- The values in the lists in which they are written. -/
def Test.lists : Test → List (List Value)
  | .among chunks => chunks
  | t => [t.values]

namespace Segment

@[simp] theorem params_nil : params [] = [] := rfl

@[simp] theorem params_sql (text : String) (ss : List Segment) :
    params (.sql text :: ss) = params ss := rfl

@[simp] theorem params_value (v : Value) (ss : List Segment) :
    params (.value v :: ss) = v :: params ss := rfl

theorem params_operand {x : Segment} (hx : x.value? = none) (ss : List Segment) :
    params (x :: ss) = params ss := List.filterMap_cons_none hx

@[simp] theorem params_append (ss ts : List Segment) : params (ss ++ ts) = params ss ++ params ts :=
  List.filterMap_append

section Collected

variable {α : Type} {f : Segment → Option α} (hf : ∀ text, f (.sql text) = none)
include hf

theorem filterMap_separated (separator : String) (sss : List (List Segment)) :
    (separated separator sss).filterMap f = sss.flatMap (List.filterMap f) := by
  induction sss with
  | nil => rfl
  | cons ss rest ih =>
    cases rest with
    | nil => simp [separated]
    | cons ts rest =>
      rw [List.flatMap_cons, ← ih, separated, List.filterMap_append,
        List.filterMap_cons_none (hf separator)]
      simp

theorem filterMap_grouped (separator : String) (sss : List (List Segment)) :
    (grouped separator sss).filterMap f = sss.flatMap (List.filterMap f) := by
  unfold grouped
  split
  · simp
  · simp [hf, filterMap_separated hf]

theorem filterMap_membership (x : Segment) (chunks : List (List Value)) :
    (membership x chunks).filterMap f =
      chunks.flatMap fun vs => (f x).toList ++ vs.filterMap fun v => f (.value v) := by
  have hvalues (vs : List Value) : (vs.map fun v => [value v]).flatMap (List.filterMap f) =
      vs.filterMap fun v => f (.value v) := by
    induction vs with
    | nil => rfl
    | cons v vs ih => cases hv : f (.value v) <;> simp [hv, ih]
  rw [membership, filterMap_grouped hf, List.flatMap_map]
  refine congrArg (List.flatMap · chunks) (funext fun vs => ?_)
  cases hx : f x <;> simp [hf, hx, filterMap_separated hf, hvalues]

/-- The operand stands before each list of values. -/
theorem filterMap_test (x : Segment) (t : Test) : (t.segments x).filterMap f =
    t.lists.flatMap fun vs => (f x).toList ++ vs.filterMap fun v => f (.value v) := by
  have hescape (escape : Option Char) : (Test.escapeSegments escape).filterMap f = [] := by
    cases escape <;> simp [Test.escapeSegments, hf]
  cases t with
  | like pattern escape caseSensitive =>
    cases caseSensitive <;> cases hx : f x <;>
      simp [Test.segments, Test.lists, Test.values, hf, hx, hescape, List.filterMap_cons]
  | among chunks => exact filterMap_membership hf x chunks
  | _ =>
    cases hx : f x <;>
      simp [Test.segments, Test.lists, Test.values, hf, hx, hescape, List.filterMap_cons]

end Collected

theorem params_separated (separator : String) (sss : List (List Segment)) :
    params (separated separator sss) = sss.flatMap params :=
  filterMap_separated (fun _ => rfl) separator sss

theorem params_membership {x : Segment} (hx : x.value? = none) (chunks : List (List Value)) :
    params (membership x chunks) = chunks.flatten := by
  rw [params, filterMap_membership fun _ => rfl, hx]
  simp [value?, List.flatMap_id']

theorem params_test {x : Segment} (hx : x.value? = none) (t : Test) :
    params (t.segments x) = t.values := by
  rw [params, filterMap_test fun _ => rfl, hx]
  cases t <;> simp [value?, Test.lists, Test.values]

end Segment

namespace Condition

theorem segmentsOfAll_eq (cs : List Condition) : segmentsOfAll cs = cs.map segments := by
  induction cs with
  | nil => rfl
  | cons c cs ih => rw [segmentsOfAll, ih, List.map_cons]

theorem params_junction (op : Connective) (cs : List Condition) :
    Segment.params (junction op cs).segments = cs.flatMap fun c => Segment.params c.segments := by
  simp [segments, Segment.params_separated, segmentsOfAll_eq, List.flatMap_map]

theorem params_test (s : Subject) (t : Test) : Segment.params (test s t).segments = t.values := by
  cases s with
  | column m => exact Segment.params_test rfl t
  | collection path rows =>
    have ht := Segment.params_test (x := .sql rows.valueColumn) rfl t
    simp [segments, ht, Segment.params_operand (x := .anchor) rfl]

end Condition

namespace Predicate

/-- What a combination is made of, unless one operand without a restriction has dropped it. -/
theorem flatMap_combine {α : Type} {op : Connective} {f : Condition → List α}
    (hf : ∀ cs, f (.junction op cs) = cs.flatMap f) {ps : List Predicate}
    (h : ¬(op = .or ∧ ps.any isUnrestricted)) :
    ((combine op ps).condition.map f).getD [] =
      ps.flatMap fun p => (p.condition.map f).getD [] := by
  have hconditions : (ps.flatMap fun p => (p.condition.map f).getD []) =
      (ps.filterMap condition).flatMap f := by
    induction ps with
    | nil => rfl
    | cons p ps ih =>
      have hrest := ih fun hor => h ⟨hor.1, by simp [hor.2]⟩
      obtain ⟨_ | c⟩ := p
      · simpa using hrest
      · simp [hrest]
  rw [hconditions, combine, if_neg h]
  split
  · rename_i hnil
    rw [hnil]
    rfl
  · rename_i c hc
    simp [hc]
  · exact hf _

theorem getD_combine {α : Type} {op : Connective} {f : Condition → List α}
    (hf : ∀ cs, f (.junction op cs) = cs.flatMap f) (ps : List Predicate) :
    ((combine op ps).condition.map f).getD [] =
      if op = .or ∧ ps.any isUnrestricted then []
      else ps.flatMap fun p => (p.condition.map f).getD [] := by
  split
  · rename_i hor
    rw [combine, if_pos hor]
    rfl
  · rename_i hor
    exact flatMap_combine hf hor

theorem params_combine (op : Connective) (ps : List Predicate) :
    (combine op ps).params =
      if op = .or ∧ ps.any isUnrestricted then [] else ps.flatMap params := by
  have hparams (p : Predicate) :
      (p.condition.map fun c => Segment.params c.segments).getD [] = p.params := by
    obtain ⟨_ | c⟩ := p <;> rfl
  have hall := getD_combine (f := fun c => Segment.params c.segments)
    (Condition.params_junction op) ps
  simpa only [hparams] using hall

theorem isUnrestricted_combine (op : Connective) (ps : List Predicate) :
    (combine op ps).isUnrestricted =
      match op with
      | .or => ps.isEmpty || ps.any isUnrestricted
      | .and => ps.all isUnrestricted := by
  have hall : (ps.filterMap condition).isEmpty = ps.all isUnrestricted := by
    induction ps with
    | nil => rfl
    | cons p ps ih =>
      obtain ⟨_ | c⟩ := p
      · simpa [isUnrestricted] using ih
      · simp [isUnrestricted]
  have hsome : ∀ hor : ¬(op = .or ∧ ps.any isUnrestricted),
      (combine op ps).isUnrestricted = (ps.filterMap condition).isEmpty := by
    intro hor
    rw [combine, if_neg hor]
    split
    · rename_i hnil
      rw [hnil]
      rfl
    · rename_i c hc
      rw [hc]
      rfl
    · rename_i hnil _
      exact (List.isEmpty_eq_false_iff.mpr fun heq => hnil heq).symm
  cases op with
  | and => exact (hsome (by simp)).trans hall
  | or =>
    cases hany : ps.any isUnrestricted with
    | true => simp [combine, hany, unrestricted, isUnrestricted]
    | false =>
      rw [hsome (by simp [hany]), hall, Bool.or_false]
      cases ps with
      | nil => rfl
      | cons p ps =>
        simp only [List.any_cons, Bool.or_eq_false_iff] at hany
        simp [hany.1]

section

variable {schema : Schema} {options : Options}

theorem params_comparing {path : AttributePath} {ms ms' : Mentions} {p : Predicate}
    {test : Attribute → Except QueryError Test} (h : comparing schema path ms test = .ok (p, ms')) :
    ∃ target t, schema.lookup path = .ok target ∧ test target = .ok t ∧ p.params = t.values ∧
      p.isUnrestricted = false := by
  obtain ⟨target, t, hfind, ht, rfl, -⟩ := comparing_eq_ok_iff.mp h
  exact ⟨target, t, hfind, ht, Condition.params_test _ t, rfl⟩

theorem coerced_eq {path : AttributePath} {target : Attribute}
    (h : schema.lookup path = .ok target) :
    Filter.coerced schema path = target.parameter := by
  funext v
  rw [Filter.coerced, h]

theorem isUnrestricted_combine_eq (op : Connective) {ps : List Predicate} {filters : List Filter}
    (h : ps.map isUnrestricted = Filter.unrestrictedOfAll filters)
    (hempty : ps.isEmpty = filters.isEmpty) :
    (combine op ps).isUnrestricted = (Filter.combine op filters).unrestricted := by
  have hany : ps.any isUnrestricted = (Filter.unrestrictedOfAll filters).any id := by
    simp [← h, List.any_map]
  have hall : ps.all isUnrestricted = (Filter.unrestrictedOfAll filters).all id := by
    simp [← h, List.all_map]
  rw [isUnrestricted_combine]
  cases op with
  | and => exact hall
  | or =>
    rw [Filter.unrestricted, ← hany, hempty]

/-- What an OR that restricts nothing is left out with, for a filter as for its predicate. -/
theorem drop_combine_eq {α : Type} (op : Connective) {ps : List Predicate} {filters : List Filter}
    (h : ps.map isUnrestricted = Filter.unrestrictedOfAll filters)
    (hempty : ps.isEmpty = filters.isEmpty) {xs : List α} (hxs : ps = [] → xs = []) :
    (if op = .or ∧ ps.any isUnrestricted then [] else xs) =
      if op = .or ∧ (Filter.combine op filters).unrestricted then [] else xs := by
  rw [← isUnrestricted_combine_eq op h hempty, isUnrestricted_combine]
  cases op with
  | and => simp
  | or =>
    cases ps with
    | nil => simp [hxs rfl]
    | cons p ps => simp

theorem params_combine_eq (op : Connective) {ps : List Predicate} {filters : List Filter}
    (h : ps.map isUnrestricted = Filter.unrestrictedOfAll filters)
    (hempty : ps.isEmpty = filters.isEmpty)
    (hparams : ps.flatMap params = Filter.parametersOfAll schema filters) :
    (combine op ps).params = (Filter.combine op filters).parameters schema := by
  have hnil : ps = [] → Filter.parametersOfAll schema filters = [] := by
    rintro rfl
    exact hparams.symm
  rw [params_combine, hparams, drop_combine_eq op h hempty hnil]
  cases op <;> simp [Filter.parameters]

mutual

theorem params_ofFilter (filter : Filter) {ms ms' : Mentions} {p : Predicate}
    (h : ofFilter schema options filter ms = .ok (p, ms')) :
    p.params = filter.parameters schema ∧ p.isUnrestricted = filter.unrestricted := by
  cases filter with
  | combine op operands =>
    obtain ⟨ps, hps, rfl⟩ := ofFilter_combine_eq_ok_iff.mp h
    obtain ⟨hparams, hunrestricted⟩ := params_ofFilters operands hps
    have hempty := isEmpty_ofFilters hps
    exact ⟨params_combine_eq op hunrestricted hempty hparams,
      isUnrestricted_combine_eq op hunrestricted hempty⟩
  | not filter =>
    obtain ⟨q, hq, rfl⟩ := ofFilter_not_eq_ok_iff.mp h
    obtain ⟨hparams, -⟩ := params_ofFilter filter hq
    refine ⟨?_, rfl⟩
    rw [Filter.parameters, ← hparams]
    obtain ⟨_ | c⟩ := q
    · rfl
    · simp [params, segments, negation, Condition.segments]
  | empty path =>
    obtain ⟨target, c, hfind, hc, rfl, -⟩ := about_eq_ok_iff.mp h
    rw [pure_eq_ok] at hc
    subst hc
    refine ⟨?_, rfl⟩
    cases (Subject.ofAttribute schema.naming target ms).1 <;> rfl
  | relational path op v =>
    obtain ⟨target, t, hfind, ht, hparams, hunrestricted⟩ := params_comparing h
    simp only [bind_eq_ok, pure_eq_ok] at ht
    obtain ⟨u, hu, rfl⟩ := ht
    refine ⟨?_, hunrestricted⟩
    rw [hparams, Test.values, Filter.parameters, coerced_eq hfind,
      target.parameter_of_filterValue v u hu]
  | like path pattern escape caseSensitive =>
    obtain ⟨target, t, hfind, ht, hparams, hunrestricted⟩ := params_comparing h
    obtain rfl := pure_eq_ok.mp ht
    exact ⟨hparams, hunrestricted⟩
  | similarTo path pattern escape =>
    obtain ⟨target, t, hfind, ht, hparams, hunrestricted⟩ := params_comparing h
    obtain ⟨-, rfl⟩ := similarTo_eq_ok_iff.mp ht
    exact ⟨hparams, hunrestricted⟩
  | between path low high =>
    obtain ⟨target, t, hfind, ht, hparams, hunrestricted⟩ := params_comparing h
    simp only [bind_eq_ok, pure_eq_ok] at ht
    obtain ⟨l, hl, u, hu, rfl⟩ := ht
    refine ⟨?_, hunrestricted⟩
    rw [hparams, Test.values, Filter.parameters, coerced_eq hfind,
      target.parameter_of_filterValue low l hl, target.parameter_of_filterValue high u hu]
  | among path vs =>
    obtain ⟨target, t, hfind, ht, hparams, hunrestricted⟩ := params_comparing h
    obtain ⟨-, us, hus, rfl⟩ := among_eq_ok_iff.mp ht
    refine ⟨?_, hunrestricted⟩
    rw [hparams, Test.values, options.flatten_chunks, Filter.parameters, coerced_eq hfind,
      eq_map_of_mapM target.parameter_of_filterValue hus]
  | itemIds ids =>
    rw [ofFilter] at h
    split at h
    · rename_i hnil
      simp only [pure_eq_ok, Prod.mk.injEq] at h
      rw [← h.1, List.isEmpty_iff.mp hnil]
      exact ⟨rfl, rfl⟩
    · simp only [pure_eq_ok, Prod.mk.injEq] at h
      rw [← h.1]
      refine ⟨?_, rfl⟩
      have hmembership := Segment.params_membership (x := .anchor) rfl
        ((options.chunks ids).map fun ids => ids.map Value.id)
      simp only [params, segments, Option.map_some, Option.getD_some, Condition.segments,
        hmembership, Filter.parameters, ← List.map_flatten, options.flatten_chunks]
  | never =>
    simp only [ofFilter, pure_eq_ok, Prod.mk.injEq] at h
    rw [← h.1]
    exact ⟨rfl, rfl⟩

theorem params_ofFilters (filters : List Filter) {ms ms' : Mentions} {ps : List Predicate}
    (h : ofFilters schema options filters ms = .ok (ps, ms')) :
    ps.flatMap params = Filter.parametersOfAll schema filters ∧
      ps.map isUnrestricted = Filter.unrestrictedOfAll filters := by
  cases filters with
  | nil =>
    simp only [ofFilters, pure_eq_ok, Prod.mk.injEq] at h
    rw [← h.1]
    exact ⟨rfl, rfl⟩
  | cons filter rest =>
    obtain ⟨p, ms₁, ps, hp, hps, rfl⟩ := ofFilters_cons_eq_ok_iff.mp h
    obtain ⟨hparams, hunrestricted⟩ := params_ofFilter filter hp
    obtain ⟨hparams', hunrestricted'⟩ := params_ofFilters rest hps
    rw [List.flatMap_cons, List.map_cons, hparams, hunrestricted, hparams', hunrestricted']
    exact ⟨rfl, rfl⟩

end

theorem params_ofFilter? {filter : Option Filter} {ms ms' : Mentions} {p : Predicate}
    (h : ofFilter? schema options filter ms = .ok (p, ms')) :
    p.params = Filter.parameters? schema filter := by
  cases filter with
  | none =>
    simp only [ofFilter?, Except.ok.injEq, Prod.mk.injEq] at h
    rw [← h.1]
    rfl
  | some filter => exact (params_ofFilter filter h).1

theorem params_conjoin (p q : Predicate) : (p.conjoin q).params = p.params ++ q.params := by
  rw [conjoin, params_combine, if_neg (by simp)]
  simp

theorem params_conjoin_itemIds (p : Predicate) (options : Options) (id : ItemId) :
    (p.conjoin ⟨some (.itemIds (options.chunks [id]))⟩).params = p.params ++ [.id id] := by
  have hmembership := Segment.params_membership (x := .anchor) rfl
    ((options.chunks [id]).map fun ids => ids.map Value.id)
  rw [← List.map_flatten, options.flatten_chunks] at hmembership
  rw [params_conjoin]
  exact congrArg (p.params ++ ·) hmembership

end

end Predicate

end AspectQuery
