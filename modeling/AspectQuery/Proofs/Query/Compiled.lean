import AspectQuery.Proofs.Statement.Collection
import AspectQuery.Proofs.Statement.Frame
import AspectQuery.Query.Values
/-!
# Compiled queries

What a compiled query names is known: its aspects, its attributes and the mentions of its predicate.
-/

set_option autoImplicit false

namespace AspectQuery

theorem mem_addOnce {xs : List AspectId} {x y : AspectId} :
    y ∈ addOnce xs x ↔ y ∈ xs ∨ y = x := by
  unfold addOnce
  split
  · rename_i h
    constructor
    · exact .inl
    · rintro (hy | rfl)
      · exact hy
      · exact h
  · simp

theorem addOnce_eraseDups (xs : List AspectId) (x : AspectId) :
    addOnce xs.eraseDups x = (xs ++ [x]).eraseDups := by
  rw [List.eraseDups_append, addOnce, List.cons_removeAll]
  by_cases hx : x ∈ xs
  · simp [hx]
  · simp [hx, List.eraseDups_cons]

/-- What is added one by one is there once, in the order in which it comes first. -/
theorem foldl_addOnce {p : AspectId → Prop} [DecidablePred p] (ids xs : List AspectId) :
    ids.foldl (fun known id => if p id then known else addOnce known id) xs.eraseDups =
      (xs ++ ids.filter fun a => ¬p a).eraseDups := by
  induction ids generalizing xs with
  | nil => simp
  | cons id rest ih =>
    rw [List.foldl_cons, List.filter_cons]
    by_cases hid : p id
    · rw [if_pos hid, ih]
      simp [hid]
    · rw [if_neg hid, addOnce_eraseDups, ih]
      simp [hid]

namespace Mentions

theorem extends_addAll (targets : List Attribute) (ms : Mentions) :
    ms.Extends (ms.addAll targets).2 := by
  induction targets generalizing ms with
  | nil => exact .refl ms
  | cons target rest ih => exact (extends_add ms target).trans (ih _)

theorem mem_toList {ms : Mentions} {m : Mention} : m ∈ ms.toList ↔ ms.get? m.index = some m := by
  obtain ⟨index, target⟩ := m
  rw [toList, List.mem_mapIdx, get?, Option.map_eq_some_iff]
  constructor
  · rintro ⟨i, hi, heq⟩
    obtain ⟨rfl, rfl⟩ := Mention.mk.inj heq
    exact ⟨_, List.getElem?_eq_getElem hi, rfl⟩
  · rintro ⟨_, hget, heq⟩
    obtain ⟨hi, rfl⟩ := List.getElem?_eq_some_iff.mp hget
    exact ⟨index, hi, heq⟩

theorem toList_addAll (targets : List Attribute) (ms : Mentions) :
    (ms.addAll targets).2.toList = ms.toList ++ (ms.addAll targets).1 := by
  induction targets generalizing ms with
  | nil => exact (List.append_nil _).symm
  | cons target rest ih =>
    have hadd : (ms.add target).2.toList = ms.toList ++ [(ms.add target).1] := by
      simp [add, toList, List.mapIdx_append]
    rw [addAll]
    exact (ih _).trans (by rw [hadd, List.append_assoc]; rfl)

theorem length_addAll (targets : List Attribute) (ms : Mentions) :
    (ms.addAll targets).1.length = targets.length := by
  induction targets generalizing ms with
  | nil => rfl
  | cons target rest ih => exact congrArg (· + 1) (ih _)

theorem get?_addAll {targets : List Attribute} {ms : Mentions} {m : Mention}
    (hm : m ∈ (ms.addAll targets).1) :
    (ms.addAll targets).2.get? m.index = some m ∧ m.target ∈ targets := by
  induction targets generalizing ms with
  | nil => simp [addAll] at hm
  | cons target rest ih =>
    rcases List.mem_cons.mp hm with rfl | hm
    · exact ⟨get?_of_extends (extends_addAll rest _) (ms.get?_add_self target), List.mem_cons_self⟩
    · obtain ⟨hget, hmem⟩ := ih hm
      exact ⟨hget, List.mem_cons_of_mem target hmem⟩

end Mentions

section

variable {schema : Schema} {options : Options}

namespace Schema

/-- All aspects are known. -/
def Has (schema : Schema) (ids : List AspectId) : Prop := ∀ a ∈ ids, (schema.aspect? a).isSome

theorem Has.addOnce {ids : List AspectId} (h : schema.Has ids) {id : AspectId}
    (hid : (schema.aspect? id).isSome) : schema.Has (addOnce ids id) := by
  intro a ha
  rcases mem_addOnce.mp ha with ha | rfl
  · exact h a ha
  · exact hid

theorem foldlM_require_eq_ok (xs : List AspectId) {ids all : List AspectId} :
    ids.foldlM (fun known id => do
      let _ ← schema.require id
      return addOnce known id) xs.eraseDups = .ok all ↔
        schema.Has ids ∧ (xs ++ ids).eraseDups = all := by
  induction ids generalizing xs with
  | nil => simp [Has]
  | cons id rest ih =>
    rw [List.foldlM_cons]
    simp only [bind_eq_ok, pure_eq_ok, addOnce_eraseDups]
    constructor
    · rintro ⟨_, ⟨a, ha, rfl⟩, h⟩
      obtain ⟨hrest, rfl⟩ := (ih _).mp h
      refine ⟨List.forall_mem_cons.mpr ⟨?_, hrest⟩, by simp⟩
      exact Option.isSome_of_eq_some (require_eq_ok.mp ha)
    · rintro ⟨hall, rfl⟩
      obtain ⟨hid, hrest⟩ := List.forall_mem_cons.mp hall
      obtain ⟨a, ha⟩ := Option.isSome_iff_exists.mp hid
      exact ⟨_, ⟨a, require_eq_ok.mpr ha, rfl⟩, (ih _).mpr ⟨hrest, by simp⟩⟩

theorem requireAll_eq_ok {ids all : List AspectId} :
    schema.requireAll ids = .ok all ↔ schema.Has ids ∧ ids.eraseDups = all :=
  foldlM_require_eq_ok []

theorem mem_requireAll {ids all : List AspectId} (h : schema.requireAll ids = .ok all)
    (a : AspectId) : a ∈ all ↔ a ∈ ids := by
  rw [← (requireAll_eq_ok.mp h).2, List.mem_eraseDups]

theorem has_requireAll {ids known : List AspectId} (h : schema.requireAll ids = .ok known) :
    schema.Has known :=
  fun a ha => (requireAll_eq_ok.mp h).1 a ((mem_requireAll h a).mp ha)

theorem lookup_of_find (hs : schema.Proper) {α : Type} {f : α → AttributePath} {xs : List α}
    {targets : List Attribute} (h : xs.mapM (fun x => schema.find (f x)) = .ok targets) :
    ∀ target ∈ targets, schema.lookup target.path = .ok target := by
  intro target htarget
  obtain ⟨x, -, hx⟩ := mem_of_mapM h htarget
  exact lookup_path_of_lookup hs (find_eq_ok.mp hx)

end Schema

namespace ItemQuery

theorem optionalAspects_eq (schema : Schema) (necessary ids : List AspectId) :
    optionalAspects schema necessary ids =
      ((ids.filter fun a => (schema.aspect? a).isSome).filter
        fun a => a ∉ necessary).eraseDups := by
  refine (foldl_addOnce ids []).trans ?_
  rw [List.filter_filter, List.nil_append]
  refine congrArg List.eraseDups (List.filter_congr fun a _ => ?_)
  cases schema.aspect? a <;> simp

theorem has_optionalAspects (schema : Schema) (necessary ids : List AspectId) :
    schema.Has (optionalAspects schema necessary ids) := by
  intro a ha
  rw [optionalAspects_eq, List.mem_eraseDups] at ha
  exact (List.mem_filter.mp (List.mem_of_mem_filter ha)).2

theorem lookup_of_mem_allAttributes (hs : schema.Proper) {ids : List AspectId} {target : Attribute}
    (h : target ∈ allAttributes schema ids) :
    schema.lookup target.path = .ok target ∧ target.aspect ∈ ids := by
  obtain ⟨a, ha, htarget⟩ := List.mem_flatMap.mp h
  obtain ⟨id, hid, ha⟩ := List.mem_filterMap.mp ha
  obtain ⟨hmem, rfl⟩ := Schema.aspect?_eq_some ha
  exact ⟨Schema.lookup_path hs hmem htarget, (hs.aspects a hmem).aspect target htarget ▸ hid⟩

/-- Selected attributes are those of the schema, and their aspects are known. -/
theorem selection_eq_ok (hs : schema.Proper) {necessary optional all : List AspectId}
    {select : List AttributePath} {targets : List Attribute} (hoptional : schema.Has optional)
    (h : selection schema necessary optional select = .ok (targets, all)) :
    (∀ target ∈ targets, schema.lookup target.path = .ok target) ∧ schema.Has all := by
  unfold selection at h
  split at h
  · simp only [pure_eq_ok, Prod.mk.injEq] at h
    obtain ⟨rfl, rfl⟩ := h
    exact ⟨fun target htarget => (lookup_of_mem_allAttributes hs htarget).1, hoptional⟩
  · simp only [bind_eq_ok, pure_eq_ok, Prod.mk.injEq] at h
    obtain ⟨targets, htargets, rfl, rfl⟩ := h
    have hlookup := Schema.lookup_of_find (f := id) hs htargets
    refine ⟨hlookup, List.foldlRecOn (motive := schema.Has) _ _ hoptional fun known h id hid => ?_⟩
    split
    · exact h
    · obtain ⟨target, htarget, rfl⟩ := List.mem_map.mp hid
      obtain ⟨a, ha, haid, -⟩ := Schema.lookup_eq_ok (hlookup target htarget)
      have hsome := Schema.aspect?_id hs ha
      rw [haid] at hsome
      exact h.addOnce (Option.isSome_of_eq_some hsome)

/-- A query that comes of a request, with the attributes that it selects and the mentions up to
those of its filter. -/
structure ComesOf (schema : Schema) (options : Options) (r : Request) (targets : List Attribute)
    (ms : Mentions) (q : ItemQuery) : Prop where
  schema_eq : q.schema = schema
  options_eq : q.options = options
  necessary : schema.requireAll r.necessary = .ok q.necessary
  selection : selection schema q.necessary (optionalAspects schema q.necessary r.optional)
    r.select = .ok (targets, q.optional)
  main : q.main = (({} : Mentions).addAll targets).1.filter fun m => m.target.bounded
  collections :
    q.collections = (({} : Mentions).addAll targets).1.filter fun m => !m.target.bounded
  predicate : Predicate.ofFilter? schema options r.filter (({} : Mentions).addAll targets).2 =
    .ok (q.predicate, ms)
  sort : sortMentions schema r.sort ms = .ok (q.sort, q.mentions)
  limit : q.limit = r.limit
  offset : q.offset = r.offset

theorem ofRequest_eq_ok_iff {r : Request} {q : ItemQuery} : ofRequest schema options r = .ok q ↔
    ∃ targets ms, q.ComesOf schema options r targets ms := by
  simp only [ofRequest, bind_eq_ok, pure_eq_ok, Prod.exists]
  constructor
  · rintro ⟨necessary, hnecessary, targets, optional, hselection, predicate, ms, hpredicate, sort,
      mentions, hsort, rfl⟩
    exact ⟨targets, ms, rfl, rfl, hnecessary, hselection, rfl, rfl, hpredicate, hsort, rfl, rfl⟩
  · rintro ⟨targets, ms, h⟩
    refine ⟨_, h.necessary, targets, _, h.selection, _, ms, h.predicate, _, _, h.sort, ?_⟩
    rw [← h.main, ← h.collections, ← h.limit, ← h.offset, ← h.schema_eq, ← h.options_eq]

theorem sortMentions_eq_ok_iff {keys : List SortKey} {ms ms' : Mentions}
    {sort : List (Mention × Direction)} : sortMentions schema keys ms = .ok (sort, ms') ↔
      ∃ targets, keys.mapM (fun k => schema.find k.path) = .ok targets ∧
        (ms.addAll targets).1.zip (keys.map SortKey.direction) = sort ∧
        (ms.addAll targets).2 = ms' := by
  simp only [sortMentions, bind_eq_ok, pure_eq_ok, Prod.mk.injEq]

/-- What the primary statement asks for. -/
def primary (q : ItemQuery) : Primary where
  necessary := q.necessary
  optional := q.optional
  select := q.main
  sort := q.sort
  limit := q.limit
  offset := q.offset

/-- What holds of a query that comes of a request. -/
structure Compiled (schema : Schema) (q : ItemQuery) : Prop where
  schema_eq : q.schema = schema
  primary : ∃ ms, q.primary.Known schema ms q.predicate
  lookup : ∀ m ∈ q.collections, schema.lookup m.target.path = .ok m.target
  collection : ∀ m ∈ q.collections, m.target.bounded = false

theorem compiled_ofRequest (hs : schema.Proper) {request : Request} {q : ItemQuery}
    (h : ofRequest schema options request = .ok q) : q.Compiled schema := by
  obtain ⟨targets, ms, h⟩ := ofRequest_eq_ok_iff.mp h
  obtain ⟨sorted, hsorted, hsort, -⟩ := sortMentions_eq_ok_iff.mp h.sort
  have hknown := Schema.has_requireAll h.necessary
  obtain ⟨hlookup, hoptional⟩ :=
    selection_eq_ok hs (has_optionalAspects schema q.necessary request.optional) h.selection
  obtain ⟨hcompiled, hextends⟩ := Predicate.compiled_ofFilter? hs h.predicate
  have hextends' := Mentions.extends_addAll sorted ms
  have hselected : ∀ m ∈ (({} : Mentions).addAll targets).1, m.target.bounded →
      m.Known schema (ms.addAll sorted).2 := by
    intro m hm hbounded
    obtain ⟨hget, hmem⟩ := Mentions.get?_addAll hm
    exact ⟨Mentions.get?_of_extends (hextends.trans hextends') hget, hlookup _ hmem, hbounded⟩
  refine ⟨h.schema_eq,
    ⟨(ms.addAll sorted).2, hknown, hoptional, ?_, ?_, hcompiled.mono hextends'⟩, ?_, ?_⟩
  · intro m (hm : m ∈ q.main)
    rw [h.main] at hm
    obtain ⟨hm, hbounded⟩ := List.mem_filter.mp hm
    exact hselected m hm hbounded
  · intro e (he : e ∈ q.sort) hbounded
    rw [← hsort] at he
    obtain ⟨hget, hmem⟩ := Mentions.get?_addAll (List.of_mem_zip he).1
    exact ⟨hget, Schema.lookup_of_find hs hsorted _ hmem, hbounded⟩
  · intro m hm
    rw [h.collections] at hm
    exact hlookup _ (Mentions.get?_addAll (List.mem_of_mem_filter hm)).2
  · intro m hm
    rw [h.collections] at hm
    simpa using (List.mem_filter.mp hm).2

theorem Compiled.primaryStatement_eq_ok_iff {q : ItemQuery} (h : q.Compiled schema)
    {s : ItemStatement} : q.primaryStatement = .ok s ↔
      ∃ aliases, q.primary.items schema q.options.dialect q.predicate {} = .ok (s, aliases) := by
  rw [← h.schema_eq]
  exact bind_fst_eq_ok

theorem Compiled.collectionStatement_eq_ok_iff {q : ItemQuery} (h : q.Compiled schema)
    {m : Mention} {s : CorrelatedStatement} : q.collectionStatement m = .ok s ↔
      ∃ aliases, Collection.correlated schema q.predicate m.target q.necessary {} =
        .ok (s, aliases) := by
  rw [← h.schema_eq]
  exact bind_fst_eq_ok

theorem Compiled.known_collection {q : ItemQuery} (h : q.Compiled schema) {m : Mention}
    (hm : m ∈ q.collections) :
    ∃ ms, Collection.Known schema ms q.predicate m.target q.necessary := by
  obtain ⟨ms, hknown⟩ := h.primary
  exact ⟨ms, h.lookup m hm, h.collection m hm, hknown.necessary, hknown.predicate⟩

/-- The restriction to one item names nothing else. -/
theorem compiled_predicate_only {q : ItemQuery} {ms : Mentions} (h : q.predicate.Compiled schema ms)
    (id : ItemId) : (q.only id).predicate.Compiled schema ms := by
  refine Predicate.compiled_combine .and fun p hp => ?_
  rcases List.mem_cons.mp hp with rfl | hp
  · exact h
  · rw [List.mem_singleton.mp hp]
    exact Predicate.compiled_itemIds q.options (by simp)

theorem Compiled.only {q : ItemQuery} (h : q.Compiled schema) (id : ItemId) :
    (q.only id).Compiled schema := by
  obtain ⟨ms, hknown⟩ := h.primary
  have hpredicate := compiled_predicate_only hknown.predicate id
  exact ⟨h.schema_eq, ⟨ms, { hknown with predicate := hpredicate }⟩, h.lookup, h.collection⟩

end ItemQuery

namespace ValueQuery

/-- A query that is compiled from an attribute, aspects that are known and a filter. -/
structure ComesOf (schema : Schema) (options : Options) (path : AttributePath)
    (known : List AspectId) (filter : Option Filter) (q : ValueQuery) : Prop where
  schema_eq : q.schema = schema
  options_eq : q.options = options
  find : schema.find path = .ok q.target
  subject : q.subject = (({} : Mentions).add q.target).1
  necessary : q.necessary = if q.target.bounded then addOnce known q.target.aspect else known
  predicate : Predicate.ofFilter? schema options filter (({} : Mentions).add q.target).2 =
    .ok (q.predicate, q.mentions)

theorem compile_eq_ok_iff {path : AttributePath} {necessary : List AspectId}
    {filter : Option Filter} {q : ValueQuery} :
    compile schema options path necessary filter = .ok q ↔
      ∃ known, schema.requireAll necessary = .ok known ∧
        q.ComesOf schema options path known filter := by
  simp only [compile, bind_eq_ok, pure_eq_ok, Prod.exists]
  constructor
  · rintro ⟨known, hknown, target, hfind, predicate, ms, hpredicate, rfl⟩
    exact ⟨known, hknown, rfl, rfl, hfind, rfl, rfl, hpredicate⟩
  · rintro ⟨known, hknown, h⟩
    refine ⟨known, hknown, _, h.find, _, _, h.predicate, ?_⟩
    rw [← h.subject, ← h.necessary, ← h.schema_eq, ← h.options_eq]

/-- What holds of a compiled query. -/
structure Compiled (schema : Schema) (q : ValueQuery) : Prop where
  schema_eq : q.schema = schema
  primary : q.target.bounded → ∃ ms, q.primary.Known schema ms q.predicate
  collection : q.target.bounded = false →
    ∃ ms, Collection.Known schema ms q.predicate q.target q.necessary

theorem compiled_of_compile (hs : schema.Proper) {path : AttributePath} {necessary : List AspectId}
    {filter : Option Filter} {q : ValueQuery}
    (h : compile schema options path necessary filter = .ok q) : q.Compiled schema := by
  obtain ⟨known, hknown, h⟩ := compile_eq_ok_iff.mp h
  have hlookup := Schema.lookup_path_of_lookup hs (Schema.find_eq_ok.mp h.find)
  obtain ⟨hcompiled, hextends⟩ := Predicate.compiled_ofFilter? hs h.predicate
  have hget := Mentions.get?_of_extends hextends (Mentions.get?_add_self {} q.target)
  have hnecessary := Schema.has_requireAll hknown
  obtain ⟨a, ha, haid, -⟩ := Schema.lookup_eq_ok hlookup
  have hsome := haid ▸ Schema.aspect?_id hs ha
  refine ⟨h.schema_eq,
    fun hbounded => ⟨q.mentions, ?_, by simp [primary], ?_, by simp [primary], hcompiled⟩,
    fun hbounded => ⟨q.mentions, hlookup, hbounded, ?_, hcompiled⟩⟩
  · rw [primary, h.necessary, if_pos hbounded]
    exact hnecessary.addOnce (Option.isSome_of_eq_some hsome)
  · intro m hm
    obtain rfl := List.mem_singleton.mp hm
    exact ⟨h.subject ▸ hget, hlookup, hbounded⟩
  · rw [h.necessary, if_neg (by simp [hbounded])]
    exact hnecessary

end ValueQuery

end

end AspectQuery
