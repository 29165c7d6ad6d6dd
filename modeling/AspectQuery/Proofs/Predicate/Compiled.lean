import AspectQuery.Proofs.Predicate.Compilation
import AspectQuery.Proofs.Predicate.Formula
import AspectQuery.Proofs.Schema.Proper
/-!
# What filters are compiled to

The condition of a filter can be written down, its mentions are among those of the query, and they
mention bounded attributes of the schema.
-/

set_option autoImplicit false

namespace AspectQuery

namespace Mentions

/-- The later mentions go on where the earlier ones end. -/
def Extends (ms ms' : Mentions) : Prop := ms.targets <+: ms'.targets

theorem Extends.refl (ms : Mentions) : ms.Extends ms := List.prefix_refl _

theorem Extends.trans {ms ms' ms'' : Mentions} (h : ms.Extends ms') (h' : ms'.Extends ms'') :
    ms.Extends ms'' := List.IsPrefix.trans h h'

theorem extends_add (ms : Mentions) (target : Attribute) : ms.Extends (ms.add target).2 :=
  List.prefix_append _ _

theorem get?_of_extends {ms ms' : Mentions} (h : ms.Extends ms') {i : Nat} {m : Mention}
    (hm : ms.get? i = some m) : ms'.get? i = some m := by
  obtain ⟨target, htarget, rfl⟩ := Option.map_eq_some_iff.mp hm
  obtain ⟨rest, hrest⟩ := h
  have hlt := (List.getElem?_eq_some_iff.mp htarget).1
  rw [get?, ← hrest, List.getElem?_append_left hlt, htarget]
  rfl

end Mentions

/-- What holds of the mentions of a query. -/
structure Mention.Known (schema : Schema) (ms : Mentions) (m : Mention) : Prop where
  get? : ms.get? m.index = some m
  lookup : schema.lookup m.target.path = .ok m.target
  bounded : m.target.bounded

theorem Mention.Known.mono {schema : Schema} {ms ms' : Mentions} (h : ms.Extends ms') {m : Mention}
    (hm : m.Known schema ms) : m.Known schema ms' :=
  ⟨Mentions.get?_of_extends h hm.get?, hm.lookup, hm.bounded⟩

structure Condition.Compiled (schema : Schema) (ms : Mentions) (c : Condition) : Prop where
  proper : c.Proper
  known : ∀ m ∈ c.mentions, m.Known schema ms

def Predicate.Compiled (schema : Schema) (ms : Mentions) (p : Predicate) : Prop :=
  ∀ c ∈ p.condition, c.Compiled schema ms

theorem Predicate.Compiled.known {schema : Schema} {ms : Mentions} {p : Predicate}
    (hp : p.Compiled schema ms) {m : Mention} (hm : m ∈ p.mentions) : m.Known schema ms := by
  obtain ⟨_ | c⟩ := p
  · simp [Predicate.mentions] at hm
  · exact (hp c rfl).known m hm

theorem Predicate.Compiled.mono {schema : Schema} {ms ms' : Mentions} (h : ms.Extends ms')
    {p : Predicate} (hp : p.Compiled schema ms) : p.Compiled schema ms' := fun c hc =>
  ⟨(hp c hc).proper, fun m hm => ((hp c hc).known m hm).mono h⟩

section

variable {schema : Schema} {options : Options} {ms ms' : Mentions}

theorem Storage.plain_rows {naming : Naming} (hnaming : naming.Plain) {s : Storage} (hs : s.Plain)
    {rows : CollectionRows} (h : CollectionRows.ofStorage? naming s = some rows) : rows.Plain := by
  cases s with
  | oneToMany table =>
    obtain rfl := Option.some.inj h
    exact ⟨hs, hnaming.itemIdColumn, hnaming.valueColumn⟩
  | manyToMany junction values =>
    obtain rfl := Option.some.inj h
    exact ⟨hs.1, hs.2, hnaming.itemIdColumn, hnaming.valueIdColumn, hnaming.valueColumn⟩
  | _ => simp [CollectionRows.ofStorage?] at h

namespace Subject

theorem extends_ofAttribute (naming : Naming) (target : Attribute) (ms : Mentions) :
    ms.Extends (ofAttribute naming target ms).2 := by
  unfold ofAttribute
  split
  · exact .refl ms
  · exact Mentions.extends_add ms target

theorem plain_ofAttribute (hs : schema.Proper) {target : Attribute} (htarget : target.storage.Plain)
    (ms : Mentions) : (ofAttribute schema.naming target ms).1.Plain := by
  unfold ofAttribute
  split
  · rename_i rows hrows
    exact Storage.plain_rows hs.naming htarget hrows
  · trivial

theorem known_ofAttribute {target : Attribute} (hlookup : schema.lookup target.path = .ok target)
    (ms : Mentions) : ∀ m ∈ (ofAttribute schema.naming target ms).1.mentions,
      m.Known schema (ofAttribute schema.naming target ms).2 := by
  intro m hm
  unfold ofAttribute at hm ⊢
  split at hm
  · simp [mentions] at hm
  · rename_i hnone
    obtain rfl := List.mem_singleton.mp hm
    exact ⟨ms.get?_add_self target, hlookup, CollectionRows.ofStorage?_eq_none.mp hnone⟩

end Subject

namespace Condition

theorem mentionsOfAll_eq (cs : List Condition) : mentionsOfAll cs = cs.flatMap mentions := by
  induction cs with
  | nil => rfl
  | cons c cs ih => rw [mentionsOfAll, ih, List.flatMap_cons]

theorem aspectsOfAll_eq (cs : List Condition) : aspectsOfAll cs = cs.flatMap aspects := by
  induction cs with
  | nil => rfl
  | cons c cs ih => rw [aspectsOfAll, ih, List.flatMap_cons]

theorem properAll_iff (cs : List Condition) : ProperAll cs ↔ ∀ c ∈ cs, c.Proper := by
  induction cs with
  | nil => simp [ProperAll]
  | cons c cs ih => simp [ProperAll, ih]

theorem Compiled.junction (op : Connective) {cs : List Condition} (hne : cs ≠ [])
    (h : ∀ c ∈ cs, c.Compiled schema ms) : (Condition.junction op cs).Compiled schema ms := by
  refine ⟨⟨hne, (properAll_iff cs).mpr fun c hc => (h c hc).proper⟩, fun m hm => ?_⟩
  rw [mentions, mentionsOfAll_eq] at hm
  obtain ⟨c, hc, hm⟩ := List.mem_flatMap.mp hm
  exact (h c hc).known m hm

end Condition

namespace Predicate

theorem compiled_unrestricted : unrestricted.Compiled schema ms := by
  intro c hc
  simp [unrestricted] at hc

theorem compiled_of_condition {c : Condition} (h : c.Compiled schema ms) :
    (⟨some c⟩ : Predicate).Compiled schema ms := by
  rintro _ ⟨⟩
  exact h

theorem compiled_never : (⟨some .never⟩ : Predicate).Compiled schema ms :=
  compiled_of_condition ⟨trivial, by simp [Condition.mentions]⟩

theorem compiled_negation {p : Predicate} (h : p.Compiled schema ms) :
    (⟨some p.negation⟩ : Predicate).Compiled schema ms := by
  obtain ⟨_ | c⟩ := p
  · exact compiled_never
  · exact compiled_of_condition ⟨(h c rfl).proper, (h c rfl).known⟩

theorem compiled_combine (op : Connective) {ps : List Predicate}
    (h : ∀ p ∈ ps, p.Compiled schema ms) : (combine op ps).Compiled schema ms := by
  have hall : ∀ c ∈ ps.filterMap condition, c.Compiled schema ms := by
    intro c hc
    obtain ⟨p, hp, hpc⟩ := List.mem_filterMap.mp hc
    exact h p hp c hpc
  rw [combine]
  split
  · exact compiled_unrestricted
  · split
    · exact compiled_unrestricted
    · rename_i c heq
      exact compiled_of_condition (hall c (by simp [heq]))
    · rename_i hnil _
      exact compiled_of_condition (.junction op (fun heq => hnil (heq ▸ rfl)) hall)

end Predicate

theorem ne_nil_of_mem_chunksWithin {α : Type} {size : Nat} (hsize : 0 < size) {steps : Nat}
    {xs : List α} : ∀ ys ∈ chunksWithin size steps xs, ys ≠ [] := by
  fun_induction chunksWithin size steps xs with
  | case1 => simp
  | case2 => simp
  | case3 steps x rest ih =>
    intro ys hys
    rcases List.mem_cons.mp hys with rfl | hys
    · simpa using Nat.ne_of_gt hsize
    · exact ih ys hys

namespace Options

theorem ne_nil_of_mem_chunks {α : Type} (o : Options) {xs ys : List α} (h : ys ∈ o.chunks xs) :
    ys ≠ [] :=
  ne_nil_of_mem_chunksWithin (by unfold chunkSize; omega) ys h

theorem chunks_ne_nil {α : Type} (o : Options) {xs : List α} (h : xs ≠ []) : o.chunks xs ≠ [] := by
  intro hnil
  have hflatten := o.flatten_chunks xs
  rw [hnil] at hflatten
  exact h hflatten.symm

end Options

namespace Predicate

theorem compiled_itemIds (options : Options) {ids : List ItemId} (h : ids ≠ []) :
    Predicate.Compiled schema ms ⟨some (.itemIds (options.chunks ids))⟩ :=
  compiled_of_condition ⟨⟨options.chunks_ne_nil h, fun _ => options.ne_nil_of_mem_chunks⟩,
    by simp [Condition.mentions]⟩

theorem compiled_about (hs : schema.Proper) {path : AttributePath} {p : Predicate}
    {condition : Attribute → Subject → Except QueryError Condition}
    (h : about schema path ms condition = .ok (p, ms'))
    (hc : ∀ target s c, s.Plain → condition target s = .ok c → c.Proper ∧ c.mentions = s.mentions) :
    p.Compiled schema ms' ∧ ms.Extends ms' := by
  obtain ⟨target, c, hfind, hcondition, rfl, rfl⟩ := about_eq_ok_iff.mp h
  have hlookup := Schema.lookup_path_of_lookup hs hfind
  have hplain := Subject.plain_ofAttribute hs (Schema.plain_of_lookup hs hfind) ms
  obtain ⟨hproper, hmentions⟩ := hc target _ c hplain hcondition
  refine ⟨compiled_of_condition ⟨hproper, ?_⟩, Subject.extends_ofAttribute _ target ms⟩
  rw [hmentions]
  exact Subject.known_ofAttribute hlookup ms

theorem compiled_comparing (hs : schema.Proper) {path : AttributePath} {p : Predicate}
    {test : Attribute → Except QueryError Test} (h : comparing schema path ms test = .ok (p, ms'))
    (ht : ∀ target t, test target = .ok t → t.Proper) :
    p.Compiled schema ms' ∧ ms.Extends ms' := by
  refine compiled_about hs h fun target s c hplain hc => ?_
  simp only [bind_eq_ok, pure_eq_ok] at hc
  obtain ⟨t, htest, rfl⟩ := hc
  exact ⟨⟨hplain, ht target t htest⟩, rfl⟩

mutual

theorem compiled_ofFilter (hs : schema.Proper) (filter : Filter) {ms ms' : Mentions} {p : Predicate}
    (h : ofFilter schema options filter ms = .ok (p, ms')) :
    p.Compiled schema ms' ∧ ms.Extends ms' := by
  cases filter with
  | combine op operands =>
    obtain ⟨ps, hps, rfl⟩ := ofFilter_combine_eq_ok_iff.mp h
    obtain ⟨hall, hext⟩ := compiled_ofFilters hs operands hps
    exact ⟨compiled_combine op hall, hext⟩
  | not filter =>
    obtain ⟨q, hq, rfl⟩ := ofFilter_not_eq_ok_iff.mp h
    obtain ⟨hcompiled, hext⟩ := compiled_ofFilter hs filter hq
    exact ⟨compiled_negation hcompiled, hext⟩
  | empty path =>
    refine compiled_about hs h fun target s c hplain hc => ?_
    rw [pure_eq_ok] at hc
    exact hc ▸ ⟨hplain, rfl⟩
  | relational path op v =>
    refine compiled_comparing hs h fun target t ht => ?_
    simp only [bind_eq_ok, pure_eq_ok] at ht
    obtain ⟨_, -, rfl⟩ := ht
    trivial
  | like path pattern escape caseSensitive =>
    refine compiled_comparing hs h fun target t ht => ?_
    rw [pure_eq_ok] at ht
    exact ht ▸ trivial
  | similarTo path pattern escape =>
    refine compiled_comparing hs h fun target t ht => ?_
    obtain ⟨-, rfl⟩ := similarTo_eq_ok_iff.mp ht
    trivial
  | between path low high =>
    refine compiled_comparing hs h fun target t ht => ?_
    simp only [bind_eq_ok, pure_eq_ok] at ht
    obtain ⟨_, -, _, -, rfl⟩ := ht
    trivial
  | among path vs =>
    refine compiled_comparing hs h fun target t ht => ?_
    obtain ⟨hvs, us, hus, rfl⟩ := among_eq_ok_iff.mp ht
    have hne : us ≠ [] := by
      rw [eq_map_of_mapM target.parameter_of_filterValue hus]
      exact mt List.map_eq_nil_iff.mp hvs
    exact ⟨options.chunks_ne_nil hne, fun _ => options.ne_nil_of_mem_chunks⟩
  | itemIds ids =>
    rw [ofFilter] at h
    split at h
    · simp only [pure_eq_ok, Prod.mk.injEq] at h
      obtain ⟨rfl, rfl⟩ := h
      exact ⟨compiled_never, .refl _⟩
    · rename_i hne
      simp only [pure_eq_ok, Prod.mk.injEq] at h
      obtain ⟨rfl, rfl⟩ := h
      have hids : ids ≠ [] := by simpa using hne
      exact ⟨compiled_itemIds options hids, .refl _⟩
  | never =>
    simp only [ofFilter, pure_eq_ok, Prod.mk.injEq] at h
    obtain ⟨rfl, rfl⟩ := h
    exact ⟨compiled_never, .refl _⟩

theorem compiled_ofFilters (hs : schema.Proper) (filters : List Filter) {ms ms' : Mentions}
    {ps : List Predicate} (h : ofFilters schema options filters ms = .ok (ps, ms')) :
    (∀ p ∈ ps, p.Compiled schema ms') ∧ ms.Extends ms' := by
  cases filters with
  | nil =>
    simp only [ofFilters, pure_eq_ok, Prod.mk.injEq] at h
    obtain ⟨rfl, rfl⟩ := h
    exact ⟨by simp, .refl _⟩
  | cons filter rest =>
    obtain ⟨p, ms₁, ps, hp, hps, rfl⟩ := ofFilters_cons_eq_ok_iff.mp h
    obtain ⟨hcompiled, hext⟩ := compiled_ofFilter hs filter hp
    obtain ⟨hrest, hext'⟩ := compiled_ofFilters hs rest hps
    refine ⟨fun q hq => ?_, hext.trans hext'⟩
    rcases List.mem_cons.mp hq with rfl | hq
    · exact hcompiled.mono hext'
    · exact hrest q hq

end

theorem compiled_ofFilter? (hs : schema.Proper) {filter : Option Filter} {ms ms' : Mentions}
    {p : Predicate} (h : ofFilter? schema options filter ms = .ok (p, ms')) :
    p.Compiled schema ms' ∧ ms.Extends ms' := by
  cases filter with
  | none =>
    simp only [ofFilter?, Except.ok.injEq, Prod.mk.injEq] at h
    obtain ⟨rfl, rfl⟩ := h
    exact ⟨compiled_unrestricted, .refl _⟩
  | some filter => exact compiled_ofFilter hs filter h

end Predicate

end

end AspectQuery
