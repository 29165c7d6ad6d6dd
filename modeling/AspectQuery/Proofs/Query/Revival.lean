import AspectQuery.Proofs.Filter.Revival
import AspectQuery.Query.Items
/-!
# Requests that were written and read again

A request is read back from its document, but for the knowledge which values of its filter were ids.
This makes no difference to its query: an id and the text of it have the same counterparts in every
type.
-/

set_option autoImplicit false

namespace AspectQuery

/-- The outcomes are the same, up to why a value of a filter has no counterpart in the type of its
attribute. -/
inductive SameOutcome {α : Type} : Except QueryError α → Except QueryError α → Prop where
  | ok (a : α) : SameOutcome (.ok a) (.ok a)
  | error (e : QueryError) : SameOutcome (.error e) (.error e)
  | invalidFilterValue (path : AttributePath) (ce ce' : CoercionError) :
      SameOutcome (.error (.invalidFilterValue path ce)) (.error (.invalidFilterValue path ce'))

namespace SameOutcome

variable {α β : Type} {x y : Except QueryError α}

theorem refl (x : Except QueryError α) : SameOutcome x x := by
  cases x with
  | error e => exact .error e
  | ok a => exact .ok a

theorem bind {f g : α → Except QueryError β} (h : SameOutcome x y)
    (hfg : ∀ a, SameOutcome (f a) (g a)) : SameOutcome (x >>= f) (y >>= g) := by
  cases h with
  | ok a => exact hfg a
  | error e => exact .error e
  | invalidFilterValue path ce ce' => exact .invalidFilterValue path ce ce'

theorem bind_left {f : α → Except QueryError β} (h : SameOutcome x y) :
    SameOutcome (x >>= f) (y >>= f) := h.bind fun a => refl (f a)

theorem mapM {f : α → Except QueryError β} {k : α → α}
    (h : ∀ a, SameOutcome (f (k a)) (f a)) (xs : List α) :
    SameOutcome ((xs.map k).mapM f) (xs.mapM f) := by
  induction xs with
  | nil => exact refl _
  | cons x xs ih =>
    rw [List.map_cons, List.mapM_cons, List.mapM_cons]
    exact (h x).bind fun y => ih.bind_left

end SameOutcome

/-- An id and its text have the same counterparts. -/
theorem Attribute.filterValue_revived (target : Attribute) (v : Value) :
    SameOutcome (target.filterValue v.revived) (target.filterValue v) := by
  cases v with
  | id item =>
    rw [filterValue, filterValue, Value.revived]
    cases target.valueType with
    | string => exact .refl _
    | id =>
      rw [Value.coerce, ItemId.ofText?_text]
      exact .refl _
    | _ => exact .invalidFilterValue _ _ _
  | _ => exact .refl _

namespace Predicate

variable {schema : Schema} {options : Options} {ms : Mentions}

theorem comparing_sameOutcome {path : AttributePath}
    {test test' : Attribute → Except QueryError Test}
    (h : ∀ target, SameOutcome (test target) (test' target)) :
    SameOutcome (comparing schema path ms test) (comparing schema path ms test') := by
  refine (SameOutcome.refl (schema.find path)).bind fun target => ?_
  exact (h target).bind_left.bind_left

mutual

theorem ofFilter_revived (filter : Filter) (ms : Mentions) :
    SameOutcome (ofFilter schema options filter.revived ms)
      (ofFilter schema options filter ms) := by
  cases filter with
  | combine op operands => exact (ofFilters_revived operands ms).bind_left
  | not filter => exact (ofFilter_revived filter ms).bind_left
  | relational path op v =>
    exact comparing_sameOutcome fun target => (target.filterValue_revived v).bind_left
  | between path low high =>
    refine comparing_sameOutcome fun target => ?_
    exact (target.filterValue_revived low).bind fun _ => (target.filterValue_revived high).bind_left
  | among path vs =>
    refine comparing_sameOutcome fun target => ?_
    rw [List.isEmpty_map]
    split
    · exact .refl _
    · exact (SameOutcome.mapM target.filterValue_revived vs).bind_left
  | _ => exact .refl _

theorem ofFilters_revived (filters : List Filter) (ms : Mentions) :
    SameOutcome (ofFilters schema options (Filter.revivedAll filters) ms)
      (ofFilters schema options filters ms) := by
  cases filters with
  | nil => exact .refl _
  | cons filter rest =>
    exact (ofFilter_revived filter ms).bind fun r => (ofFilters_revived rest r.2).bind_left

end

theorem ofFilter?_revived (filter : Option Filter) (ms : Mentions) :
    SameOutcome (ofFilter? schema options (filter.map Filter.revived) ms)
      (ofFilter? schema options filter ms) := by
  cases filter with
  | none => exact .refl _
  | some filter => exact ofFilter_revived filter ms

end Predicate

theorem SortKey.ofDocument?_document (k : SortKey) : ofDocument? k.document = some k := by
  obtain ⟨path, direction⟩ := k
  have hdirection : Direction.ofDocument? (.text direction.name) = some direction := by
    cases direction <;> rfl
  rw [ofDocument?, document, Document.members?_record .json (by rfl) (by decide)]
  simp [Document.required, Document.defaulted, path.ofDocument?_document, hdirection]

namespace Request

def revived (r : Request) : Request := { r with filter := r.filter.map Filter.revived }

theorem count?_document (n : UInt64) : count? (.integer n.toNat) = some n := by
  have hlow : (0 : Int) ≤ n.toNat := Int.natCast_nonneg _
  have hhigh : (n.toNat : Int) < Nat.pow 2 64 := Int.ofNat_lt.mpr n.toNat_lt
  rw [count?, Document.natural?, if_pos ⟨hlow, hhigh⟩, Option.map_some, Int.toNat_natCast,
    UInt64.ofNat_toNat]

theorem limit?_document (n : Option UInt64) :
    Document.optional? count? (countDocument n) = some n := by
  cases n with
  | none => rfl
  | some n => simp only [countDocument, Document.optional?, count?_document, Option.map_some]

theorem filter?_document {filter : Option Filter}
    (hfinite : ∀ v ∈ Filter.values? filter, v.isFinite) :
    Document.optional? Filter.ofDocument? (filterDocument filter) =
      some (filter.map Filter.revived) := by
  cases filter with
  | none => rfl
  | some filter =>
    have hread := Filter.ofDocument?_document hfinite
    obtain ⟨members, hmembers⟩ : ∃ members, filter.document = .record members := by
      cases filter <;> exact ⟨_, rfl⟩
    rw [hmembers] at hread
    simp only [filterDocument, hmembers, Document.optional?, hread, Option.map_some]

theorem ofDocument?_document {r : Request} (hfinite : ∀ v ∈ Filter.values? r.filter, v.isFinite) :
    ofDocument? r.document = some r.revived := by
  have htexts : ∀ ids : List AspectId,
      Document.list? Document.text? (.list (ids.map Document.text)) = some ids :=
    fun ids => Document.list?_map_self fun _ _ => rfl
  have hselect : Document.list? (AttributePath.ofDocument? .json)
      (.list (r.select.map AttributePath.document)) = some r.select :=
    Document.list?_map_self fun path _ => path.ofDocument?_document .json
  have hsort : Document.list? SortKey.ofDocument? (.list (r.sort.map SortKey.document)) =
      some r.sort :=
    Document.list?_map_self fun k _ => k.ofDocument?_document
  rw [ofDocument?, document, Document.members?_record .json (by rfl) (by decide)]
  simp [Document.defaulted, htexts, hselect, hsort, filter?_document hfinite, limit?_document,
    revived]

/-- Nothing is lost of a request without ids among the values of its filter. -/
theorem revived_eq {r : Request} (h : ∀ v ∈ Filter.values? r.filter, ∀ id, v ≠ .id id) :
    r.revived = r := by
  have hvalues : ∀ v ∈ Filter.values? r.filter, v.revived = v := by
    intro v hv
    cases v with
    | id item => exact absurd rfl (h _ hv item)
    | _ => rfl
  obtain ⟨necessary, optional, select, filter, sort, limit, offset⟩ := r
  cases filter with
  | none => rfl
  | some filter => simp only [revived, Option.map_some, filter.revived_eq hvalues]

/-- The query is the same, so that its statements are the same, or it fails for the same reason. -/
theorem ofRequest_revived (schema : Schema) (options : Options) (r : Request) :
    SameOutcome (ItemQuery.ofRequest schema options r.revived)
      (ItemQuery.ofRequest schema options r) := by
  refine (SameOutcome.refl (schema.requireAll r.necessary)).bind fun necessary => ?_
  refine (SameOutcome.refl (ItemQuery.selection schema necessary
    (ItemQuery.optionalAspects schema necessary r.optional) r.select)).bind fun selected => ?_
  exact (Predicate.ofFilter?_revived r.filter _).bind_left

/-- A request without infinite numbers is read back from its document, but that its ids have become
text, and neither its query nor the statements change with it. -/
theorem survives_writing (r : Request) (hfinite : ∀ v ∈ Filter.values? r.filter, v.isFinite) :
    ofDocument? r.document = some r.revived ∧
    ((∀ v ∈ Filter.values? r.filter, ∀ id, v ≠ .id id) → r.revived = r) ∧
    ∀ schema options,
      SameOutcome (ItemQuery.ofRequest schema options r.revived)
        (ItemQuery.ofRequest schema options r) ∧
      SameOutcome (ItemQuery.ofRequest schema options r.revived >>= ItemQuery.explain)
        (ItemQuery.ofRequest schema options r >>= ItemQuery.explain) := by
  refine ⟨ofDocument?_document hfinite, revived_eq, fun schema options => ?_⟩
  have houtcome := ofRequest_revived schema options r
  exact ⟨houtcome, houtcome.bind_left⟩

/-- Films of a rating above one and a half, or with one of two titles, of which one is an id. -/
def filmRequest : Request where
  necessary := ["film"]
  filter := some (.combine .or [
    .relational ⟨"film", "rating"⟩ .gt (.float ⟨0x3ff8000000000000⟩),
    .not (.among ⟨"film", "title"⟩ [.id ⟨List.replicate 32 (.last 15), rfl⟩, .text "Alien"])])
  sort := [⟨⟨"film", "title"⟩, .descending⟩]
  limit := some 10

theorem survives_writing_films : (∀ v ∈ Filter.values? filmRequest.filter, v.isFinite) ∧
    ofDocument? filmRequest.document = some filmRequest.revived ∧
    ∀ schema options, SameOutcome (ItemQuery.ofRequest schema options filmRequest.revived)
      (ItemQuery.ofRequest schema options filmRequest) := by
  have hfinite : ∀ v ∈ Filter.values? filmRequest.filter, v.isFinite := by decide
  obtain ⟨hread, -, houtcome⟩ := survives_writing filmRequest hfinite
  exact ⟨hfinite, hread, fun schema options => (houtcome schema options).1⟩

end Request

end AspectQuery
