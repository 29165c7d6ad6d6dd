import AspectQuery.Proofs.Query.Compiled
/-!
# What a query is about

A query keeps the aspects of its request, each once, and selects what the request does. The aspects
of selected attributes are added to the optional ones.
-/

set_option autoImplicit false

namespace AspectQuery

section

variable {schema : Schema} {options : Options}

theorem Schema.paths_of_mapM_find (hs : schema.Proper) {paths : List AttributePath}
    {targets : List Attribute} (h : paths.mapM schema.find = .ok targets) :
    targets.map Attribute.path = paths :=
  (map_of_mapM (fun _ _ hx => path_of_lookup hs (find_eq_ok.mp hx)) h).trans (List.map_id' _)

namespace Mentions

theorem map_target_addAll (targets : List Attribute) (ms : Mentions) :
    (ms.addAll targets).1.map Mention.target = targets := by
  induction targets generalizing ms with
  | nil => rfl
  | cons target rest ih => exact congrArg (target :: ·) (ih _)

end Mentions

namespace ItemQuery

/-- A query is about what its request names. -/
structure Requested (schema : Schema) (request : Request) (q : ItemQuery) : Prop where
  necessary : ∀ a, a ∈ q.necessary ↔ a ∈ request.necessary
  optional : ∀ a, a ∈ q.optional ↔ a ∉ request.necessary ∧
    (a ∈ request.optional ∧ (schema.aspect? a).isSome ∨ ∃ path ∈ request.select, path.aspect = a)
  /-- The selected attributes in their order; without a selection, all that there are. -/
  selected : ∃ selected : List Mention, q.main = selected.filter (fun m => m.target.bounded) ∧
    q.collections = selected.filter (fun m => !m.target.bounded) ∧
    if request.select.isEmpty then
      selected.map Mention.target = allAttributes schema (q.necessary ++ q.optional)
    else selected.map (fun m => m.target.path) = request.select

/-- The aspects of selected attributes come after the optional ones. -/
theorem optional_of_selection (hs : schema.Proper) {necessary optional all : List AspectId}
    {select : List AttributePath} {targets : List Attribute}
    (h : selection schema necessary optional.eraseDups select = .ok (targets, all)) :
    all = (optional ++
      (select.map AttributePath.aspect).filter fun a => a ∉ necessary).eraseDups := by
  unfold selection at h
  split at h
  · rename_i hempty
    obtain ⟨-, rfl⟩ := Prod.mk.inj (pure_eq_ok.mp h)
    simp [List.isEmpty_iff.mp hempty]
  · obtain ⟨targets', hfind, h⟩ := bind_eq_ok.mp h
    obtain ⟨-, rfl⟩ := Prod.mk.inj (pure_eq_ok.mp h)
    rw [foldl_addOnce, ← Schema.paths_of_mapM_find hs hfind, List.map_map]
    rfl

/-- The necessary aspects of a request each once, and the optional ones that are known with those of
the selected attributes. -/
theorem aspects_ofRequest (hs : schema.Proper) {request : Request} {q : ItemQuery}
    (h : ofRequest schema options request = .ok q) :
    q.necessary = request.necessary.eraseDups ∧
      q.optional = ((request.optional.filter (fun a => (schema.aspect? a).isSome) ++
        request.select.map AttributePath.aspect).filter fun a =>
          a ∉ request.necessary).eraseDups := by
  obtain ⟨targets, ms, h⟩ := ofRequest_eq_ok_iff.mp h
  obtain ⟨-, hnecessary⟩ := Schema.requireAll_eq_ok.mp h.necessary
  have hselection := h.selection
  rw [optionalAspects_eq] at hselection
  refine ⟨hnecessary.symm, (optional_of_selection hs hselection).trans ?_⟩
  simp only [List.filter_append, ← hnecessary, List.mem_eraseDups]

theorem requested_ofRequest (hs : schema.Proper) {request : Request} {q : ItemQuery}
    (h : ofRequest schema options request = .ok q) : q.Requested schema request := by
  obtain ⟨hnecessary, hoptional⟩ := aspects_ofRequest hs h
  refine ⟨by simp [hnecessary], fun a => ?_, ?_⟩
  · rw [hoptional, List.mem_eraseDups, List.mem_filter, decide_eq_true_iff, and_comm,
      List.mem_append, List.mem_filter, List.mem_map]
  · obtain ⟨targets, ms, h⟩ := ofRequest_eq_ok_iff.mp h
    have htargets := Mentions.map_target_addAll targets {}
    refine ⟨_, h.main, h.collections, ?_⟩
    have hselection := h.selection
    unfold selection at hselection
    split at hselection
    · rename_i hempty
      obtain ⟨hall, hoptional⟩ := Prod.mk.inj (pure_eq_ok.mp hselection)
      rw [if_pos hempty, htargets, ← hall, hoptional]
    · rename_i hempty
      obtain ⟨targets', hfind, hselection⟩ := bind_eq_ok.mp hselection
      obtain ⟨rfl, -⟩ := Prod.mk.inj (pure_eq_ok.mp hselection)
      rw [if_neg hempty, ← Schema.paths_of_mapM_find hs hfind]
      calc (({} : Mentions).addAll targets').1.map (fun m => m.target.path)
          = ((({} : Mentions).addAll targets').1.map Mention.target).map Attribute.path := by
            rw [List.map_map]
            rfl
        _ = targets'.map Attribute.path := by rw [htargets]

end ItemQuery

end

end AspectQuery
