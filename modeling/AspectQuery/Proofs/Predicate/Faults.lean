import AspectQuery.Proofs.Predicate.Parts
/-!
# Faults of filters

A filter has no predicate exactly if one of its nodes is ill formed, wherever this stands, also
where an OR without a restriction would drop it. The error is that of the first such node, from the
root down and from left to right.
-/

set_option autoImplicit false

namespace AspectQuery

namespace Filter

mutual

/-- The filter and the filters in it, from the root down and from left to right. -/
def nodes : Filter → List Filter
  | .combine op operands => .combine op operands :: nodesOfAll operands
  | .not filter => .not filter :: filter.nodes
  | filter => [filter]

def nodesOfAll : List Filter → List Filter
  | [] => []
  | filter :: rest => filter.nodes ++ nodesOfAll rest

end

/-- No filter has no nodes. -/
def nodes? (filter : Option Filter) : List Filter := (filter.map nodes).getD []

/-- The attribute that the node itself is about. -/
def subject? : Filter → Option AttributePath
  | .empty path => some path
  | .relational path _ _ => some path
  | .like path _ _ _ => some path
  | .similarTo path _ _ => some path
  | .between path _ _ => some path
  | .among path _ => some path
  | _ => none

/-- The values with which the node itself compares its attribute. -/
def compared : Filter → List Value
  | .relational _ _ v => [v]
  | .between _ low high => [low, high]
  | .among _ vs => vs
  | _ => []

section

variable (schema : Schema) (options : Options)

/-- The node names an aspect or an attribute that the schema does not have. -/
def NamesUnknown (node : Filter) : Prop :=
  ∃ path, node.subject? = some path ∧ ∀ target, schema.lookup path ≠ .ok target

/-- What makes a node ill formed, the filters below it aside. -/
inductive IllFormed : Filter → Prop where
  | namesUnknown {node : Filter} (h : node.NamesUnknown schema) : IllFormed node
  | similarTo (path : AttributePath) (pattern : String) (escape : Option Char)
      (h : options.dialect.supportsSimilarTo = false) : IllFormed (.similarTo path pattern escape)
  | emptyList (path : AttributePath) : IllFormed (.among path [])
  | badValue {node : Filter} {path : AttributePath} {target : Attribute} {v : Value}
      {e : CoercionError} (hpath : node.subject? = some path)
      (htarget : schema.lookup path = .ok target) (hv : v ∈ node.compared)
      (h : v.coerce target.valueType = .error e) : IllFormed node

/-- The error of an ill-formed node. Its names come first, then its operator or its list, and last
the first of its values that does not have the type of the attribute. -/
inductive Fault : Filter → QueryError → Prop where
  | unknownAspect {node : Filter} {path : AttributePath} (hpath : node.subject? = some path)
      (h : schema.aspect? path.aspect = none) : Fault node (.lookup (.unknownAspect path.aspect))
  | unknownAttribute {node : Filter} {path : AttributePath} {aspect : Aspect}
      (hpath : node.subject? = some path) (haspect : schema.aspect? path.aspect = some aspect)
      (h : aspect.attribute? path.name = none) : Fault node (.lookup (.unknownAttribute path))
  | similarTo {path : AttributePath} {pattern : String} {escape : Option Char} {target : Attribute}
      (htarget : schema.lookup path = .ok target) (h : options.dialect.supportsSimilarTo = false) :
      Fault (.similarTo path pattern escape) (.similarToUnsupported options.dialect)
  | emptyList {path : AttributePath} {target : Attribute}
      (htarget : schema.lookup path = .ok target) : Fault (.among path []) (.emptyInList path)
  | badValue {node : Filter} {path : AttributePath} {target : Attribute} {before after : List Value}
      {v : Value} {e : CoercionError} (hpath : node.subject? = some path)
      (htarget : schema.lookup path = .ok target) (hcompared : node.compared = before ++ v :: after)
      (hbefore : ∀ u ∈ before, ∃ w, u.coerce target.valueType = .ok w)
      (h : v.coerce target.valueType = .error e) : Fault node (.invalidFilterValue path e)

/-- The error of the first of some nodes that is ill formed. -/
def FirstFault (ns : List Filter) (e : QueryError) : Prop :=
  ∃ before node after, ns = before ++ node :: after ∧ (∀ n ∈ before, ¬n.IllFormed schema options) ∧
    node.Fault schema options e

end

variable {schema : Schema} {options : Options} {e : QueryError}

theorem IllFormed.subject {node : Filter} (h : node.IllFormed schema options) :
    ∃ path, node.subject? = some path := by
  cases h with
  | namesUnknown h =>
    obtain ⟨path, hpath, -⟩ := h
    exact ⟨path, hpath⟩
  | similarTo path => exact ⟨path, rfl⟩
  | emptyList path => exact ⟨path, rfl⟩
  | badValue hpath => exact ⟨_, hpath⟩

theorem exists_fault_iff {node : Filter} :
    (∃ e, node.Fault schema options e) ↔ node.IllFormed schema options := by
  -- A node with an unknown name has the fault of its name.
  have hnames : ∀ path, node.subject? = some path → (∀ target, schema.lookup path ≠ .ok target) →
      ∃ e, node.Fault schema options e := by
    intro path hpath hunknown
    cases haspect : schema.aspect? path.aspect with
    | none => exact ⟨_, .unknownAspect hpath haspect⟩
    | some aspect =>
      cases hattribute : aspect.attribute? path.name with
      | none => exact ⟨_, .unknownAttribute hpath haspect hattribute⟩
      | some target => exact absurd (by simp [Schema.lookup, haspect, hattribute]) (hunknown target)
  constructor
  · rintro ⟨e, hfault⟩
    cases hfault with
    | unknownAspect hpath h => exact .namesUnknown ⟨_, hpath, by simp [Schema.lookup, h]⟩
    | unknownAttribute hpath haspect h =>
      exact .namesUnknown ⟨_, hpath, by simp [Schema.lookup, haspect, h]⟩
    | similarTo htarget h => exact .similarTo _ _ _ h
    | emptyList htarget => exact .emptyList _
    | badValue hpath htarget hcompared hbefore h =>
      exact .badValue hpath htarget (hcompared ▸ List.mem_append_right _ List.mem_cons_self) h
  · intro hill
    cases hill with
    | namesUnknown h =>
      obtain ⟨path, hpath, hunknown⟩ := h
      exact hnames path hpath hunknown
    | similarTo path pattern escape h =>
      cases hlookup : schema.lookup path with
      | error le => exact hnames path rfl fun target => by simp [hlookup]
      | ok target => exact ⟨_, .similarTo hlookup h⟩
    | emptyList path =>
      cases hlookup : schema.lookup path with
      | error le => exact hnames path rfl fun target => by simp [hlookup]
      | ok target => exact ⟨_, .emptyList hlookup⟩
    | @badValue _ path target v e hpath htarget hv h =>
      cases hall : node.compared.mapM (Value.coerce target.valueType) with
      | error e' =>
        obtain ⟨before, u, after, hcompared, hbefore, hu⟩ := mapM_eq_error.mp hall
        exact ⟨_, .badValue hpath htarget hcompared hbefore hu⟩
      | ok ws =>
        obtain ⟨w, -, hw⟩ := exists_of_mapM hall hv
        rw [h] at hw
        cases hw

theorem Fault.namesUnknown_iff {node : Filter} (h : node.Fault schema options e) :
    node.NamesUnknown schema ↔ e.isSchemaError := by
  have hknown : ∀ {node : Filter} {path : AttributePath} {target : Attribute},
      node.subject? = some path → schema.lookup path = .ok target →
        ¬node.NamesUnknown schema := by
    rintro node path target hpath htarget ⟨path', hpath', hunknown⟩
    obtain rfl := Option.some.inj (hpath.symm.trans hpath')
    exact hunknown target htarget
  cases h with
  | unknownAspect hpath h => exact iff_of_true ⟨_, hpath, by simp [Schema.lookup, h]⟩ rfl
  | unknownAttribute hpath haspect h =>
    exact iff_of_true ⟨_, hpath, by simp [Schema.lookup, haspect, h]⟩ rfl
  | similarTo htarget h => exact iff_of_false (hknown rfl htarget) Bool.false_ne_true
  | emptyList htarget => exact iff_of_false (hknown rfl htarget) Bool.false_ne_true
  | badValue hpath htarget => exact iff_of_false (hknown hpath htarget) Bool.false_ne_true

theorem Fault.isStructural_eq {node : Filter} (h : node.Fault schema options e) :
    e.isStructural = !e.isSchemaError := by
  cases h <;> rfl

theorem firstFault_cons {node : Filter} {ns : List Filter} :
    FirstFault schema options (node :: ns) e ↔
      node.Fault schema options e ∨
        ¬node.IllFormed schema options ∧ FirstFault schema options ns e := by
  constructor
  · rintro ⟨_ | ⟨n, before⟩, node', after, heq, hbefore, hfault⟩
    · obtain ⟨rfl, rfl⟩ := List.cons.inj heq
      exact .inl hfault
    · obtain ⟨rfl, rfl⟩ := List.cons.inj heq
      obtain ⟨hnode, hbefore⟩ := List.forall_mem_cons.mp hbefore
      exact .inr ⟨hnode, before, node', after, rfl, hbefore, hfault⟩
  · rintro (hfault | ⟨hnode, before, node', after, rfl, hbefore, hfault⟩)
    · exact ⟨[], node, ns, rfl, nofun, hfault⟩
    · exact ⟨node :: before, node', after, rfl, List.forall_mem_cons.mpr ⟨hnode, hbefore⟩, hfault⟩

theorem firstFault_nil : ¬FirstFault schema options [] e := by
  rintro ⟨before, node, after, heq, -⟩
  simp at heq

theorem firstFault_append {ns ns' : List Filter} :
    FirstFault schema options (ns ++ ns') e ↔ FirstFault schema options ns e ∨
      (∀ n ∈ ns, ¬n.IllFormed schema options) ∧ FirstFault schema options ns' e := by
  induction ns with
  | nil => simp [firstFault_nil]
  | cons n ns ih =>
    rw [List.cons_append, firstFault_cons, firstFault_cons, ih, List.forall_mem_cons, and_or_left,
      or_assoc, and_assoc]

theorem firstFault_singleton {node : Filter} :
    FirstFault schema options [node] e ↔ node.Fault schema options e := by
  simp [firstFault_cons, firstFault_nil]

/-- A node that is about no attribute has no fault of its own. -/
theorem firstFault_cons_of_subject {node : Filter} {ns : List Filter} (h : node.subject? = none) :
    FirstFault schema options (node :: ns) e ↔ FirstFault schema options ns e := by
  have hnode : ¬node.IllFormed schema options := by
    intro hill
    obtain ⟨path, hpath⟩ := hill.subject
    simp [h] at hpath
  rw [firstFault_cons, or_iff_right fun hfault => hnode (exists_fault_iff.mp ⟨e, hfault⟩),
    and_iff_right hnode]

theorem exists_firstFault_iff {ns : List Filter} :
    (∃ e, FirstFault schema options ns e) ↔ ∃ n ∈ ns, n.IllFormed schema options := by
  induction ns with
  | nil => simp [firstFault_nil]
  | cons n ns ih =>
    simp only [firstFault_cons, exists_or, exists_fault_iff, exists_and_left, ih]
    by_cases hn : n.IllFormed schema options <;> simp [hn]

end Filter

theorem Schema.lookup_eq_error {schema : Schema} {path : AttributePath} {e : LookupError} :
    schema.lookup path = .error e ↔
      schema.aspect? path.aspect = none ∧ .unknownAspect path.aspect = e ∨
      ∃ aspect, schema.aspect? path.aspect = some aspect ∧ aspect.attribute? path.name = none ∧
        .unknownAttribute path = e := by
  unfold lookup
  cases haspect : schema.aspect? path.aspect with
  | none => simp
  | some aspect => cases hattribute : aspect.attribute? path.name <;> simp [hattribute]

theorem Attribute.filterValue_eq_error {target : Attribute} {v : Value} {e : QueryError} :
    target.filterValue v = .error e ↔
      ∃ ce, v.coerce target.valueType = .error ce ∧ .invalidFilterValue target.path ce = e :=
  mapError_eq_error

theorem Attribute.mapM_filterValue_eq_error {target : Attribute} {vs : List Value}
    {e : QueryError} : vs.mapM target.filterValue = .error e ↔
      ∃ before v after ce, vs = before ++ v :: after ∧
        (∀ u ∈ before, ∃ w, u.coerce target.valueType = .ok w) ∧
        v.coerce target.valueType = .error ce ∧ .invalidFilterValue target.path ce = e := by
  rw [mapM_eq_error]
  simp only [filterValue_eq_error, exists_and_left]
  simp only [filterValue, mapError_eq_ok]

namespace Predicate

variable {schema : Schema} {options : Options} {e : QueryError} {path : AttributePath}
  {ms : Mentions}

theorem about_eq_error {condition : Attribute → Subject → Except QueryError Condition} :
    about schema path ms condition = .error e ↔
      (∃ le, schema.lookup path = .error le ∧ .lookup le = e) ∨
      ∃ target, schema.lookup path = .ok target ∧
        condition target (Subject.ofAttribute schema.naming target ms).1 = .error e := by
  have hfind : schema.find path = .error e ↔
      ∃ le, schema.lookup path = .error le ∧ .lookup le = e := mapError_eq_error
  rw [about, bind_eq_error, hfind]
  simp only [Schema.find_eq_ok, bind_pure_comp, map_eq_error]

end Predicate

namespace Filter

variable {schema : Schema} {options : Options} {e : QueryError} {node : Filter}
  {path : AttributePath}

/-- What a node refuses before it looks at a value. -/
def refusal? (options : Options) : Filter → Option QueryError
  | .similarTo _ _ _ =>
    if options.dialect.supportsSimilarTo then none else some (.similarToUnsupported options.dialect)
  | .among path [] => some (.emptyInList path)
  | _ => none

/-- What is wrong with a node whose attribute is known. -/
def TestFault (options : Options) (target : Attribute) (node : Filter) (e : QueryError) : Prop :=
  node.refusal? options = some e ∨ node.compared.mapM target.filterValue = .error e

theorem fault_of_refusal {target : Attribute} (hpath : node.subject? = some path)
    (htarget : schema.lookup path = .ok target) (h : node.refusal? options = some e) :
    node.Fault schema options e := by
  unfold refusal? at h
  split at h
  · split at h
    · cases h
    · obtain rfl := Option.some.inj h
      obtain rfl := Option.some.inj hpath
      rename_i hsupports
      exact .similarTo htarget (Bool.not_eq_true _ ▸ hsupports)
  · obtain rfl := Option.some.inj h
    obtain rfl := Option.some.inj hpath
    exact .emptyList htarget
  · cases h

theorem fault_iff (hs : schema.Proper) (hpath : node.subject? = some path) :
    node.Fault schema options e ↔
      (∃ le, schema.lookup path = .error le ∧ .lookup le = e) ∨
      ∃ target, schema.lookup path = .ok target ∧ node.TestFault options target e := by
  constructor
  · intro hfault
    cases hfault with
    | unknownAspect hpath' h =>
      obtain rfl := Option.some.inj (hpath.symm.trans hpath')
      exact .inl ⟨_, Schema.lookup_eq_error.mpr (.inl ⟨h, rfl⟩), rfl⟩
    | unknownAttribute hpath' haspect h =>
      obtain rfl := Option.some.inj (hpath.symm.trans hpath')
      exact .inl ⟨_, Schema.lookup_eq_error.mpr (.inr ⟨_, haspect, h, rfl⟩), rfl⟩
    | similarTo htarget h =>
      obtain rfl := Option.some.inj hpath
      exact .inr ⟨_, htarget, .inl (by simp [refusal?, h])⟩
    | emptyList htarget =>
      obtain rfl := Option.some.inj hpath
      exact .inr ⟨_, htarget, .inl rfl⟩
    | badValue hpath' htarget hcompared hbefore h =>
      obtain rfl := Option.some.inj (hpath.symm.trans hpath')
      refine .inr ⟨_, htarget, .inr (Attribute.mapM_filterValue_eq_error.mpr ?_)⟩
      exact ⟨_, _, _, _, hcompared, hbefore, h, by rw [Schema.path_of_lookup hs htarget]⟩
  · rintro (⟨le, hlookup, rfl⟩ | ⟨target, htarget, htest⟩)
    · rcases Schema.lookup_eq_error.mp hlookup with ⟨h, rfl⟩ | ⟨aspect, haspect, h, rfl⟩
      · exact .unknownAspect hpath h
      · exact .unknownAttribute hpath haspect h
    · rcases htest with hrefusal | hvalues
      · exact fault_of_refusal hpath htarget hrefusal
      · obtain ⟨before, v, after, ce, hcompared, hbefore, hv, rfl⟩ :=
          Attribute.mapM_filterValue_eq_error.mp hvalues
        rw [Schema.path_of_lookup hs htarget]
        exact .badValue hpath htarget hcompared hbefore hv

end Filter

namespace Predicate

variable {schema : Schema} {options : Options} {e : QueryError} {ms : Mentions}

theorem about_eq_error_iff_fault (hs : schema.Proper) {node : Filter} {path : AttributePath}
    (hpath : node.subject? = some path)
    {condition : Attribute → Subject → Except QueryError Condition}
    (hcondition : ∀ target subject, target.path = path →
      (condition target subject = .error e ↔ node.TestFault options target e)) :
    about schema path ms condition = .error e ↔ Filter.FirstFault schema options [node] e := by
  rw [Filter.firstFault_singleton, Filter.fault_iff hs hpath, about_eq_error]
  refine or_congr_right (exists_congr fun target => and_congr_right fun htarget => ?_)
  exact hcondition target _ (Schema.path_of_lookup hs htarget)

theorem comparing_eq_error_iff_fault (hs : schema.Proper) {node : Filter} {path : AttributePath}
    (hpath : node.subject? = some path) {test : Attribute → Except QueryError Test}
    (htest : ∀ target, target.path = path →
      (test target = .error e ↔ node.TestFault options target e)) :
    comparing schema path ms test = .error e ↔ Filter.FirstFault schema options [node] e := by
  refine about_eq_error_iff_fault hs hpath fun target subject htarget => ?_
  rw [bind_pure_comp, map_eq_error]
  exact htest target htarget

/-- What fails at the first fault gives a result where there is no fault. -/
theorem exists_ok_iff {α : Type} {x : Except QueryError α} {ns : List Filter}
    (h : ∀ e, x = .error e ↔ Filter.FirstFault schema options ns e) :
    (∃ a, x = .ok a) ↔ ∀ n ∈ ns, ¬n.IllFormed schema options := by
  have hfails := (exists_congr h).trans Filter.exists_firstFault_iff
  cases x with
  | error e =>
    obtain ⟨n, hn, hill⟩ := hfails.mp ⟨e, rfl⟩
    exact iff_of_false nofun fun hwell => hwell n hn hill
  | ok a =>
    refine iff_of_true ⟨a, rfl⟩ fun n hn hill => ?_
    obtain ⟨e, he⟩ := hfails.mpr ⟨n, hn, hill⟩
    cases he

mutual

theorem ofFilter_eq_error (hs : schema.Proper) (filter : Filter) (ms : Mentions) {e : QueryError} :
    ofFilter schema options filter ms = .error e ↔
      Filter.FirstFault schema options filter.nodes e := by
  cases filter with
  | combine op operands =>
    rw [ofFilter, bind_pure_comp, map_eq_error, ofFilters_eq_error hs operands ms]
    exact (Filter.firstFault_cons_of_subject rfl).symm
  | not filter =>
    rw [ofFilter, bind_pure_comp, map_eq_error, ofFilter_eq_error hs filter ms]
    exact (Filter.firstFault_cons_of_subject rfl).symm
  | empty path =>
    refine about_eq_error_iff_fault hs rfl fun target _ _ => ?_
    simp [Filter.TestFault, Filter.refusal?, Filter.compared]
  | relational path op v =>
    refine comparing_eq_error_iff_fault hs rfl fun target _ => ?_
    simp [Filter.TestFault, Filter.refusal?, Filter.compared]
  | like path pattern escape caseSensitive =>
    refine comparing_eq_error_iff_fault hs rfl fun target _ => ?_
    simp [Filter.TestFault, Filter.refusal?, Filter.compared]
  | similarTo path pattern escape =>
    refine comparing_eq_error_iff_fault hs rfl fun target _ => ?_
    cases hsupports : options.dialect.supportsSimilarTo <;>
      simp [Filter.TestFault, Filter.refusal?, Filter.compared, hsupports]
  | between path low high =>
    refine comparing_eq_error_iff_fault hs rfl fun target _ => ?_
    simp [Filter.TestFault, Filter.refusal?, Filter.compared, bind_eq_error]
  | among path vs =>
    refine comparing_eq_error_iff_fault hs rfl fun target hpath => ?_
    cases vs with
    | nil => simp [Filter.TestFault, Filter.refusal?, Filter.compared, hpath]
    | cons v vs => simp [Filter.TestFault, Filter.refusal?, Filter.compared, bind_eq_error]
  | itemIds ids =>
    rw [ofFilter]
    refine iff_of_false ?_ ?_
    · split <;> exact nofun
    · exact fun h => Filter.firstFault_nil ((Filter.firstFault_cons_of_subject rfl).mp h)
  | never =>
    exact iff_of_false nofun fun h =>
      Filter.firstFault_nil ((Filter.firstFault_cons_of_subject rfl).mp h)

theorem ofFilters_eq_error (hs : schema.Proper) (filters : List Filter) (ms : Mentions)
    {e : QueryError} :
    ofFilters schema options filters ms = .error e ↔
      Filter.FirstFault schema options (Filter.nodesOfAll filters) e := by
  cases filters with
  | nil => exact iff_of_false nofun Filter.firstFault_nil
  | cons filter rest =>
    have hhead : (∃ r, ofFilter schema options filter ms = .ok r) ↔
        ∀ n ∈ filter.nodes, ¬n.IllFormed schema options :=
      exists_ok_iff fun e => ofFilter_eq_error hs filter ms
    rw [ofFilters, Filter.nodesOfAll, Filter.firstFault_append, bind_eq_error,
      ofFilter_eq_error hs filter ms, ← hhead]
    refine or_congr_right ?_
    simp only [bind_pure_comp, map_eq_error, ofFilters_eq_error hs rest, exists_and_right]

end

theorem ofFilter?_eq_error (hs : schema.Proper) (filter : Option Filter) (ms : Mentions) :
    ofFilter? schema options filter ms = .error e ↔
      Filter.FirstFault schema options (Filter.nodes? filter) e := by
  cases filter with
  | none => exact iff_of_false nofun Filter.firstFault_nil
  | some filter => exact ofFilter_eq_error hs filter ms

/-- A filter fails exactly if one of its nodes is ill formed, with the error of the first of these.
Names alone make it an error of the schema. -/
theorem fails_at_first_fault {d : SchemaDefinition} {naming : Naming}
    (hschema : Schema.ofDefinition d naming = .ok schema) (options : Options)
    (filter : Option Filter) (ms : Mentions) :
    ((∃ e, ofFilter? schema options filter ms = .error e) ↔
      ∃ node ∈ Filter.nodes? filter, node.IllFormed schema options) ∧
    (∀ e, ofFilter? schema options filter ms = .error e ↔
      Filter.FirstFault schema options (Filter.nodes? filter) e) ∧
    (∀ node e, Filter.Fault schema options node e →
      (e.isSchemaError ↔ node.NamesUnknown schema) ∧ e.isStructural = !e.isSchemaError) ∧
    ∃ p, ofFilter schema options (.itemIds []) ms = .ok (p, ms) := by
  have hs := Schema.proper_of_ofDefinition hschema
  have hfirst : ∀ e, ofFilter? schema options filter ms = .error e ↔
      Filter.FirstFault schema options (Filter.nodes? filter) e :=
    fun e => ofFilter?_eq_error hs filter ms
  refine ⟨?_, hfirst, ?_, ⟨⟨some .never⟩, rfl⟩⟩
  · rw [exists_congr hfirst, Filter.exists_firstFault_iff]
  · intro node e hfault
    exact ⟨hfault.namesUnknown_iff.symm, hfault.isStructural_eq⟩

/-- No restriction, or a genre out of no list, or a year that films do not have. -/
def faultyFilter : Filter :=
  .not (.combine .or [
    .combine .and [],
    .among ⟨"film", "genre"⟩ [],
    .relational ⟨"film", "year"⟩ .eq (.text "1979")])

theorem fails_at_first_fault_films : Schema.ofDefinition films {} = .ok filmSchema ∧
    ofFilter? filmSchema {} (some faultyFilter) {} = .error (.emptyInList ⟨"film", "genre"⟩) := by
  have hschema : Schema.ofDefinition films {} = .ok filmSchema := rfl
  obtain ⟨-, hfirst, -⟩ := fails_at_first_fault hschema {} (some faultyFilter) {}
  refine ⟨hschema, (hfirst _).mpr ?_⟩
  refine (Filter.firstFault_cons_of_subject rfl).mpr ?_
  refine (Filter.firstFault_cons_of_subject rfl).mpr ?_
  refine (Filter.firstFault_cons_of_subject rfl).mpr ?_
  exact Filter.firstFault_cons.mpr (.inl (.emptyList rfl))

end Predicate

end AspectQuery
