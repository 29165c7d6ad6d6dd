import AspectQuery.Proofs.ByName
import AspectQuery.Proofs.Predicate.Compiled
import AspectQuery.Proofs.Predicate.Places
/-!
# Predicates in writing

A predicate can be kept as its parts, beside them its values, which the parts refer to by their
places, and the attributes and aspects that it needs. Written predicates are joined and put into a
statement without the conditions that they come of.
-/

set_option autoImplicit false

namespace AspectQuery

structure Rendering where
  parts : List Part := []
  params : List Value := []
  attributes : List (Nat × AttributePath) := []
  aspects : List AspectId := []

namespace Rendering

/-- Both predicates, of which one without parts is left out. The values of the second one move
behind those of the first. -/
def conjoin (v w : Rendering) : Rendering :=
  if w.parts.isEmpty then v
  else if v.parts.isEmpty then w
  else {
    parts := .sql "(" :: v.parts ++ .sql " AND " :: w.parts.map (Part.shift v.params.length) ++
      [.sql ")"]
    params := v.params ++ w.params
    attributes := v.attributes ++ w.attributes
    aspects := sortedNames (v.aspects ++ w.aspects) }

/-- The path of an attribute by its number. -/
def path (w : Rendering) (i : Nat) : AttributePath :=
  (w.attributes.lookup i).getD ⟨"?", "#" ++ toString i⟩

def partText (w : Rendering) (p : JoinPlan) (anchor : Sql.Column) : Part → Except QueryError String
  | .sql text => .ok text
  | .attribute i =>
    match p.columns.lookup i with
    | some c => do return (← p.tables.qualify c).text
    | none => .error (.unresolvedAttribute (w.path i))
  | .param _ => .ok "?"
  | .anchor => .ok anchor.text

/-- Puts a written predicate into the statement of a plan, with a value for each of its places. -/
def bind (w : Rendering) (p : JoinPlan) (anchor : Sql.Column) : Except QueryError Bound := do
  let texts ← w.parts.mapM (w.partText p anchor)
  return ⟨String.join texts, w.parts.filterMap fun part => part.place?.bind fun i => w.params[i]?⟩

/-- What a part refers to: a mention by its number, and a value by its place. -/
def segment? (w : Rendering) (ms : Mentions) : Part → Option Segment
  | .sql text => some (.sql text)
  | .attribute i => (ms.get? i).map .column
  | .param place => w.params[place]?.map .value
  | .anchor => some .anchor

/-- Reads the parts one after another. There is no reading where one of them refers to a mention or
to a value that is not there. -/
def read? (w : Rendering) (ms : Mentions) : Option (List Segment) := w.parts.mapM (w.segment? ms)

/-- A predicate in writing that refers to nothing that is not there. -/
structure Refers (w : Rendering) (ms : Mentions) (p : Predicate) : Prop where
  attributes : ∀ e ∈ w.attributes, (ms.get? e.1).map (fun m => m.target.path) = some e.2
  places : w.parts.filterMap Part.place? = List.range w.params.length
  read : w.read? ms = some p.segments
  bind : ∀ plan anchor, w.bind plan anchor = plan.bind anchor p

end Rendering

theorem Segment.grouped_ne_nil {separator : String} {sss : List (List Segment)}
    (h : ∀ ss ∈ sss, ss ≠ []) : Segment.grouped separator sss ≠ [] := by
  unfold Segment.grouped
  split
  · rename_i ss
    exact h ss (List.mem_singleton_self ss)
  · simp

theorem Segment.membership_ne_nil (x : Segment) (chunks : List (List Value)) :
    Segment.membership x chunks ≠ [] := by
  refine Segment.grouped_ne_nil fun ss hss => ?_
  obtain ⟨vs, -, rfl⟩ := List.mem_map.mp hss
  simp

theorem Test.segments_ne_nil (x : Segment) (t : Test) : t.segments x ≠ [] := by
  cases t with
  | like pattern escape caseSensitive => cases caseSensitive <;> simp [Test.segments]
  | among chunks => exact Segment.membership_ne_nil x chunks
  | _ => simp [Test.segments]

theorem Condition.segments_ne_nil (c : Condition) : c.segments ≠ [] := by
  cases c with
  | isEmpty s => cases s <;> simp [Condition.segments]
  | test s t =>
    cases s with
    | column m => exact t.segments_ne_nil _
    | collection path rows => simp [Condition.segments]
  | itemIds chunks => exact Segment.membership_ne_nil _ _
  | _ => simp [Condition.segments]

theorem Condition.isEmpty_number (c : Condition) (n : Nat) :
    (Segment.number n c.segments).isEmpty = false := by
  rw [Segment.isEmpty_number]
  exact List.isEmpty_eq_false_iff.mpr c.segments_ne_nil

namespace Predicate

def rendering (p : Predicate) : Rendering where
  parts := p.parts
  params := p.params
  attributes := p.mentions.map fun m => (m.index, m.target.path)
  aspects := p.aspects

theorem isEmpty_parts (p : Predicate) : p.parts.isEmpty = p.isUnrestricted := by
  rw [parts, Segment.isEmpty_number]
  obtain ⟨_ | c⟩ := p
  · rfl
  · exact List.isEmpty_eq_false_iff.mpr c.segments_ne_nil

theorem conjoin_none (p : Predicate) : p.conjoin ⟨none⟩ = p := by
  obtain ⟨_ | c⟩ := p <;> rfl

theorem none_conjoin (p : Predicate) : conjoin ⟨none⟩ p = p := by
  obtain ⟨_ | c⟩ := p <;> rfl

/-- Where predicates are joined, so are they in writing. -/
theorem rendering_conjoin (p q : Predicate) :
    (p.conjoin q).rendering = p.rendering.conjoin q.rendering := by
  obtain ⟨_ | d⟩ := q
  · rw [conjoin_none]
    rfl
  have hd : (⟨some d⟩ : Predicate).parts.isEmpty = false := isEmpty_parts _
  obtain ⟨_ | c⟩ := p
  · rw [none_conjoin, Rendering.conjoin, rendering, hd]
    rfl
  -- Both restrict something, so that they stand in parentheses and the places move.
  have hc : (⟨some c⟩ : Predicate).parts.isEmpty = false := isEmpty_parts _
  have hmentions : mentions (conjoin ⟨some c⟩ ⟨some d⟩) = c.mentions ++ d.mentions := by
    simp [conjoin, combine, mentions, Condition.mentions, Condition.mentionsOfAll]
  have haspects : aspects (conjoin ⟨some c⟩ ⟨some d⟩) = sortedNames (c.aspects ++ d.aspects) := by
    simp [conjoin, combine, aspects, Condition.aspects, Condition.aspectsOfAll]
  simp only [Rendering.conjoin, rendering, hc, hd, Bool.false_eq_true, if_false, parts_conjoin,
    params_conjoin, hmentions, haspects, isUnrestricted, Option.isNone_some, List.map_append]
  rw [← sortedNames_append_sortedNames]
  rfl

theorem column_mem_segments (p : Predicate) (m : Mention) (h : .column m ∈ p.segments) :
    m ∈ p.mentions := by
  obtain ⟨_ | c⟩ := p
  · simp [segments] at h
  · exact c.column_mem_segments h

theorem params_places (before : List Value) (ss : List Segment) :
    ((Segment.number before.length ss).filterMap fun part =>
      part.place?.bind fun i => (before ++ Segment.params ss)[i]?) = Segment.params ss := by
  induction ss generalizing before with
  | nil => rfl
  | cons s ss ih =>
    cases s with
    | value v =>
      have hrest := ih (before ++ [v])
      simp only [List.length_append, List.length_singleton, List.append_assoc,
        List.singleton_append] at hrest
      have hread : (before ++ v :: Segment.params ss)[before.length]? = some v := by simp
      simp only [Segment.number, Segment.params_value, List.filterMap_cons, Part.place?,
        Option.bind_some, hread]
      exact congrArg (v :: ·) hrest
    | _ => exact ih before

theorem lookup_path {ms : Mentions} {mentions : List Mention}
    (h : ∀ m ∈ mentions, ms.get? m.index = some m) {m : Mention} (hm : m ∈ mentions) :
    (mentions.map fun m => (m.index, m.target.path)).lookup m.index = some m.target.path := by
  induction mentions with
  | nil => simp at hm
  | cons first rest ih =>
    by_cases heq : m.index = first.index
    · have hfirst := h first List.mem_cons_self
      rw [← heq, h m hm] at hfirst
      rw [Option.some.inj hfirst]
      exact List.lookup_cons_self
    · have hrest : m ∈ rest := by
        rcases List.mem_cons.mp hm with rfl | hm
        · exact absurd rfl heq
        · exact hm
      rw [List.map_cons, List.lookup_cons, beq_false_of_ne heq]
      exact ih (fun m hm => h m (List.mem_cons_of_mem first hm)) hrest

section

variable {ms : Mentions} {p : Predicate} (hp : ∀ m ∈ p.mentions, ms.get? m.index = some m)
include hp

theorem path_rendering {m : Mention} (hm : m ∈ p.mentions) :
    p.rendering.path m.index = m.target.path := by
  rw [Rendering.path, rendering, lookup_path hp hm]
  rfl

theorem mapM_partText (plan : JoinPlan) (anchor : Sql.Column) {ss : List Segment}
    (hss : ∀ m, .column m ∈ ss → m ∈ p.mentions) (n : Nat) :
    (Segment.number n ss).mapM (p.rendering.partText plan anchor) =
      ss.mapM (plan.segmentText anchor) := by
  induction ss generalizing n with
  | nil => rfl
  | cons s ss ih =>
    have hrest := ih fun m hm => hss m (List.mem_cons_of_mem s hm)
    cases s with
    | column m =>
      have hpath := path_rendering hp (hss m List.mem_cons_self)
      have hcolumn : p.rendering.partText plan anchor (.attribute m.index) =
          plan.segmentText anchor (.column m) := by
        cases hlookup : plan.columns.lookup m.index <;>
          simp only [Rendering.partText, JoinPlan.segmentText, JoinPlan.column?, hlookup, hpath]
      simp only [Segment.number, List.mapM_cons, hrest, hcolumn]
    | _ =>
      simp only [Segment.number, List.mapM_cons, hrest, Rendering.partText, JoinPlan.segmentText]

/-- A predicate is put into a statement as it is in writing. -/
theorem bind_rendering (plan : JoinPlan) (anchor : Sql.Column) :
    p.rendering.bind plan anchor = plan.bind anchor p := by
  have htexts : p.rendering.parts.mapM (p.rendering.partText plan anchor) =
      p.segments.mapM (plan.segmentText anchor) :=
    mapM_partText hp plan anchor p.column_mem_segments 0
  have hplaces : (p.rendering.parts.filterMap fun part =>
      part.place?.bind fun i => p.rendering.params[i]?) = p.params := params_places [] p.segments
  simp only [Rendering.bind, htexts, hplaces, JoinPlan.bind]

theorem mapM_segment? {w : Rendering} {ss : List Segment} (before : List Value)
    (hss : ∀ m, .column m ∈ ss → m ∈ p.mentions) (hw : w.params = before ++ Segment.params ss) :
    (Segment.number before.length ss).mapM (w.segment? ms) = some ss := by
  induction ss generalizing before with
  | nil => rfl
  | cons s ss ih =>
    have hmem : ∀ m, .column m ∈ ss → m ∈ p.mentions := fun m hm =>
      hss m (List.mem_cons_of_mem s hm)
    cases s with
    | value v =>
      have hmoved : w.params = before ++ [v] ++ Segment.params ss := by simpa using hw
      have hrest := ih (before ++ [v]) hmem hmoved
      have hread : w.params[before.length]? = some v := by simp [hw]
      rw [List.length_append, List.length_singleton] at hrest
      simp [Segment.number, Rendering.segment?, hread, hrest]
    | column m =>
      have hget := hp m (hss m List.mem_cons_self)
      simp [Segment.number, Rendering.segment?, hget, ih before hmem hw]
    | _ => simp [Segment.number, Rendering.segment?, ih before hmem hw]

/-- A predicate in writing is read back with the mentions of its query. -/
theorem refers_rendering : p.rendering.Refers ms p where
  attributes := by
    intro e he
    obtain ⟨m, hm, rfl⟩ := List.mem_map.mp he
    rw [hp m hm, Option.map_some]
  places := p.places_parts
  read := mapM_segment? hp [] p.column_mem_segments rfl
  bind := bind_rendering hp

end

end Predicate

end AspectQuery
