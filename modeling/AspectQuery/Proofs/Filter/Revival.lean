import AspectQuery.Proofs.Predicate.Faults
import AspectQuery.Request
/-!
# Filters that were written and read again

A filter is read back from its document, however deep it is. Only that a value was an id is not
known any more: it has become the text of the id.
-/

set_option autoImplicit false

namespace AspectQuery

namespace Document

theorem member?_of_mem {members : List (String × Document)} {m : String × Document}
    (hnodup : (members.map Prod.fst).Nodup) (hm : m ∈ members) :
    member? members m.1 = some (some m.2) := by
  have hfilter : (members.filter fun m' => m'.1 == m.1) = [m] := by
    induction members with
    | nil => simp at hm
    | cons first rest ih =>
      obtain ⟨hfirst, hrest⟩ := List.nodup_cons.mp hnodup
      rcases List.mem_cons.mp hm with rfl | hm
      · have hnone : (rest.filter fun m' => m'.1 == m.1) = [] := by
          refine List.filter_eq_nil_iff.mpr fun m' hm' heq => hfirst ?_
          exact List.mem_map.mpr ⟨m', hm', by simpa using heq⟩
        rw [List.filter_cons_of_pos (by simp), hnone]
      · have hne : first.1 ≠ m.1 := fun heq => hfirst (heq ▸ List.mem_map_of_mem hm)
        rw [List.filter_cons_of_neg (by simpa using hne), ih hrest hm]
  rw [member?, hfilter]

/-- A record is read by the names that it was written with. -/
theorem members?_record (conv : Conventions) {members : List (String × Document)}
    {names : List String} (hnames : members.map Prod.fst = names) (hnodup : names.Nodup) :
    members? conv names (.record members) = some (members.map fun m => some m.2) := by
  subst hnames
  have hothers : (members.any fun m =>
      !(members.map Prod.fst).contains m.1 && !m.2.readable) = false := by
    refine List.any_eq_false.mpr fun m hm => ?_
    have hname : (members.map Prod.fst).contains m.1 :=
      List.contains_iff_mem.mpr (List.mem_map_of_mem hm)
    rw [hname]
    exact Bool.false_ne_true
  have hread : ∀ l ⊆ members, (l.map Prod.fst).mapM (member? members) =
      some (l.map fun m => some m.2) := by
    intro l hl
    induction l with
    | nil => rfl
    | cons m l ih =>
      obtain ⟨hm, hl⟩ := List.cons_subset.mp hl
      simp [List.mapM_cons, member?_of_mem hnodup hm, ih hl]
  rw [members?, hothers, Bool.and_false, if_neg Bool.false_ne_true, hread members (fun _ h => h)]

theorem list?_map {α β : Type} {f : Document → Option β} {g : α → Document} {k : α → β}
    {xs : List α} (h : ∀ x ∈ xs, f (g x) = some (k x)) :
    list? f (.list (xs.map g)) = some (xs.map k) := by
  rw [list?]
  induction xs with
  | nil => rfl
  | cons x xs ih =>
    obtain ⟨hx, hxs⟩ := List.forall_mem_cons.mp h
    simp [List.mapM_cons, hx, ih hxs]

theorem list?_map_self {α : Type} {f : Document → Option α} {g : α → Document} {xs : List α}
    (h : ∀ x ∈ xs, f (g x) = some x) : list? f (.list (xs.map g)) = some xs := by
  rw [list?_map (k := id) h, List.map_id]

theorem readableList_map {α : Type} {g : α → Document} {xs : List α}
    (h : ∀ x ∈ xs, (g x).readable) : readableList (xs.map g) := by
  induction xs with
  | nil => rfl
  | cons x xs ih =>
    obtain ⟨hx, hxs⟩ := List.forall_mem_cons.mp h
    rw [List.map_cons, readableList, hx, ih hxs]
    rfl

end Document

namespace AttributePath

theorem ofDocument?_document (conv : Document.Conventions) (p : AttributePath) :
    ofDocument? conv p.document = some p := by
  rw [ofDocument?, document, Document.members?_record conv (by rfl) (by decide)]
  rfl

theorem readable_document (p : AttributePath) : p.document.readable := rfl

end AttributePath

namespace Value

/-- The value without the knowledge that it was an id. -/
def revived : Value → Value
  | .id item => .text item.text
  | v => v

/-- Numbers that are not finite have no document. -/
def isFinite : Value → Bool
  | .float x => x.isFinite
  | _ => true

theorem ofDocument?_document {v : Value} (h : v.isFinite) :
    ofDocument? v.document = some v.revived := by
  cases v with
  | integer i =>
    have hlow := i.le_toInt
    have hhigh := i.toInt_lt
    rw [document, ofDocument?, if_pos ⟨hlow, hhigh⟩, Int64.ofInt_toInt]
    rfl
  | float x =>
    have h : x.isFinite := h
    rw [document, if_pos h]
    rfl
  | _ => rfl

theorem readable_document (v : Value) : v.document.readable := by
  cases v with
  | float x =>
    rw [document]
    split <;> rfl
  | _ => rfl

end Value

namespace Filter

mutual

/-- The filter without the knowledge which of its values were ids. -/
def revived : Filter → Filter
  | .combine op operands => .combine op (revivedAll operands)
  | .not filter => .not filter.revived
  | .relational path op v => .relational path op v.revived
  | .between path low high => .between path low.revived high.revived
  | .among path vs => .among path (vs.map Value.revived)
  | filter => filter

def revivedAll : List Filter → List Filter
  | [] => []
  | filter :: rest => filter.revived :: revivedAll rest

end

/-- All values with which a filter compares attributes. -/
def values (filter : Filter) : List Value := filter.nodes.flatMap compared

def values? (filter : Option Filter) : List Value := (nodes? filter).flatMap compared

theorem connective?_name (op : Connective) : connective? (.text op.name) = some op := by
  cases op <;> rfl

theorem relation?_name (op : Relation) : relation? (.text op.name) = some op := by
  cases op <;> rfl

theorem path?_document (p : AttributePath) : path? (some p.document) = some p :=
  p.ofDocument?_document .tagged

theorem escape?_document (escape : Option Char) :
    escape? (some (escapeDocument escape)) = some escape := by
  cases escape with
  | none => rfl
  | some c =>
    simp [escape?, escapeDocument, Document.defaulted, Document.optional?, Document.character?]

theorem itemId?_text (id : ItemId) : itemId? (.text id.text) = some id := id.ofText?_text

theorem tagged?_record (nested : Bool) {kind : String} (hkind : kind ∈ kinds)
    {members : List (String × Document)} (h : ∀ m ∈ members, m.1 ≠ "kind") :
    tagged? nested (.record (("kind", .text kind) :: members)) = some (kind, .record members) := by
  have hfilter : (members.filter fun m => m.1 == "kind") = [] :=
    List.filter_eq_nil_iff.mpr fun m hm => by simpa using h m hm
  have hrest : (members.filter fun m => m.1 != "kind") = members :=
    List.filter_eq_self.mpr fun m hm => by simpa using h m hm
  simp [tagged?, Document.member?, hfilter, hrest, Document.required, kind?, hkind]

mutual

theorem ofDocumentWithin?_document (filter : Filter) {depth : Nat} (nested : Bool)
    (hdepth : filter.document.nesting < depth) (hfinite : ∀ v ∈ filter.values, v.isFinite) :
    ofDocumentWithin? depth nested filter.document = some filter.revived := by
  obtain _ | depth := depth
  · simp at hdepth
  cases filter with
  | combine op operands =>
    have hdepth : Document.nestingList (documents operands) < depth := by
      simp only [document, Document.nesting, Document.nestingMembers] at hdepth
      omega
    have hoperands := mapM_ofDocumentWithin?_documents operands hdepth hfinite
    rw [document, ofDocumentWithin?, tagged?_record nested (by decide) (by simp),
      Option.bind_eq_bind, Option.bind_some]
    simp [Document.members?_record, Document.required, connective?_name, Document.list?, hoperands,
      revived]
  | not filter =>
    have hdepth : filter.document.nesting < depth := by
      simp only [document, Document.nesting, Document.nestingMembers] at hdepth
      omega
    have hfilter := ofDocumentWithin?_document filter true hdepth hfinite
    rw [document, ofDocumentWithin?, tagged?_record nested (by decide) (by simp),
      Option.bind_eq_bind, Option.bind_some]
    simp [Document.members?_record, Document.required, hfilter, revived]
  | empty path =>
    rw [document, ofDocumentWithin?, tagged?_record nested (by decide) (by simp),
      Option.bind_eq_bind, Option.bind_some]
    simp [Document.members?_record, path?_document, revived]
  | relational path op v =>
    have hv := Value.ofDocument?_document (hfinite v (by simp [values, nodes, compared]))
    rw [document, ofDocumentWithin?, tagged?_record nested (by decide) (by simp),
      Option.bind_eq_bind, Option.bind_some]
    simp [Document.members?_record, Document.required, path?_document, relation?_name, hv, revived]
  | like path pattern escape caseSensitive =>
    rw [document, ofDocumentWithin?, tagged?_record nested (by decide) (by simp),
      Option.bind_eq_bind, Option.bind_some]
    simp [Document.members?_record, Document.required, Document.defaulted, Document.text?,
      Document.boolean?, path?_document, escape?_document, revived]
  | similarTo path pattern escape =>
    rw [document, ofDocumentWithin?, tagged?_record nested (by decide) (by simp),
      Option.bind_eq_bind, Option.bind_some]
    simp [Document.members?_record, Document.required, Document.text?, path?_document,
      escape?_document, revived]
  | between path low high =>
    have hlow := Value.ofDocument?_document (hfinite low (by simp [values, nodes, compared]))
    have hhigh := Value.ofDocument?_document (hfinite high (by simp [values, nodes, compared]))
    rw [document, ofDocumentWithin?, tagged?_record nested (by decide) (by simp),
      Option.bind_eq_bind, Option.bind_some]
    simp [Document.members?_record, Document.required, path?_document, hlow, hhigh, revived]
  | among path vs =>
    have hvs : ∀ v ∈ vs, Value.ofDocument? v.document = some v.revived := fun v hv =>
      Value.ofDocument?_document (hfinite v (by simpa [values, nodes, compared] using hv))
    rw [document, ofDocumentWithin?, tagged?_record nested (by decide) (by simp),
      Option.bind_eq_bind, Option.bind_some]
    simp [Document.members?_record, Document.required, path?_document, Document.list?_map hvs,
      revived]
  | itemIds ids =>
    have hids : ∀ id ∈ ids, itemId? (.text (ItemId.text id)) = some id :=
      fun id _ => itemId?_text id
    rw [document, ofDocumentWithin?, tagged?_record nested (by decide) (by simp),
      Option.bind_eq_bind, Option.bind_some]
    simp [Document.members?_record, Document.required, Document.list?_map_self hids,
      revived]
  | never =>
    rw [document, ofDocumentWithin?, tagged?_record nested (by decide) (by simp),
      Option.bind_eq_bind, Option.bind_some]
    rfl

theorem mapM_ofDocumentWithin?_documents (filters : List Filter) {depth : Nat}
    (hdepth : Document.nestingList (documents filters) < depth)
    (hfinite : ∀ v ∈ (nodesOfAll filters).flatMap compared, v.isFinite) :
    (documents filters).mapM (ofDocumentWithin? depth true) = some (revivedAll filters) := by
  cases filters with
  | nil => rfl
  | cons filter rest =>
    rw [documents, Document.nestingList] at hdepth
    rw [nodesOfAll, List.flatMap_append] at hfinite
    obtain ⟨hheight, hheights⟩ := Nat.max_lt.mp hdepth
    obtain ⟨hhead, hrest⟩ := List.forall_mem_append.mp hfinite
    have hfilter := ofDocumentWithin?_document filter true hheight hhead
    have hfilters := mapM_ofDocumentWithin?_documents rest hheights hrest
    simp [documents, revivedAll, List.mapM_cons, hfilter, hfilters]

end

mutual

theorem readable_document (filter : Filter) : filter.document.readable := by
  cases filter with
  | combine op operands =>
    have hoperands := readableList_documents operands
    simp [document, Document.readable, Document.readableMembers, hoperands]
  | not filter =>
    have hfilter := readable_document filter
    simp [document, Document.readable, Document.readableMembers, hfilter]
  | like path pattern escape caseSensitive => cases escape <;> rfl
  | similarTo path pattern escape => cases escape <;> rfl
  | relational path op v =>
    simp [document, Document.readable, Document.readableMembers, AttributePath.readable_document,
      v.readable_document]
  | between path low high =>
    simp [document, Document.readable, Document.readableMembers, AttributePath.readable_document,
      low.readable_document, high.readable_document]
  | among path vs =>
    have hvs : Document.readableList (vs.map Value.document) :=
      Document.readableList_map fun v _ => v.readable_document
    simp [document, Document.readable, Document.readableMembers, AttributePath.readable_document,
      hvs]
  | itemIds ids =>
    have hids : Document.readableList (ids.map fun id => .text id.text) :=
      Document.readableList_map fun _ _ => rfl
    simp [document, Document.readable, Document.readableMembers, hids]
  | _ => rfl

theorem readableList_documents (filters : List Filter) :
    Document.readableList (documents filters) := by
  cases filters with
  | nil => rfl
  | cons filter rest =>
    simp [documents, Document.readableList, readable_document filter, readableList_documents rest]

end

/-- Filters are read back however deep they are. -/
theorem ofDocument?_document {filter : Filter} (hfinite : ∀ v ∈ filter.values, v.isFinite) :
    ofDocument? filter.document = some filter.revived := by
  rw [ofDocument?, if_pos filter.readable_document]
  exact ofDocumentWithin?_document filter false (Nat.lt_succ_self _) hfinite

mutual

/-- Where no value is an id, nothing is lost. -/
theorem revived_eq (filter : Filter) (h : ∀ v ∈ filter.values, v.revived = v) :
    filter.revived = filter := by
  cases filter with
  | combine op operands => rw [revived, revivedAll_eq operands h]
  | not filter => rw [revived, revived_eq filter h]
  | relational path op v => rw [revived, h v (by simp [values, nodes, compared])]
  | between path low high =>
    rw [revived, h low (by simp [values, nodes, compared]),
      h high (by simp [values, nodes, compared])]
  | among path vs =>
    have hvs : vs.map Value.revived = vs := by
      refine (List.map_congr_left fun v hv => ?_).trans (List.map_id vs)
      exact h v (by simpa [values, nodes, compared] using hv)
    rw [revived, hvs]
  | _ => rfl

theorem revivedAll_eq (filters : List Filter)
    (h : ∀ v ∈ (nodesOfAll filters).flatMap compared, v.revived = v) :
    revivedAll filters = filters := by
  cases filters with
  | nil => rfl
  | cons filter rest =>
    rw [nodesOfAll, List.flatMap_append] at h
    obtain ⟨hhead, hrest⟩ := List.forall_mem_append.mp h
    rw [revivedAll, revived_eq filter hhead, revivedAll_eq rest hrest]

end

end Filter

end AspectQuery
