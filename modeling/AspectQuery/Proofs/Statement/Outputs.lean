import AspectQuery.Proofs.Statement.Items
import AspectQuery.Proofs.Statement.Names
import AspectQuery.Proofs.Text.Ascii
import Mathlib.Data.List.Forall2
/-!
# The outputs of a statement

Every output of a statement has a name of its own, so that a row has one column for each of them.
Names are compared without regard to the case of letters, and even so no two of them are the same.
-/

set_option autoImplicit false

namespace AspectQuery

theorem nodup_eraseDups {α : Type} [BEq α] [LawfulBEq α] (xs : List α) : xs.eraseDups.Nodup := by
  induction h : xs.length using Nat.strongRecOn generalizing xs with
  | _ n ih =>
    cases xs with
    | nil => exact List.nodup_nil
    | cons x xs =>
      rw [List.eraseDups_cons, List.nodup_cons]
      refine ⟨by simp, ih _ ?_ _ rfl⟩
      rw [← h, List.length_cons]
      exact Nat.lt_succ_of_le (List.length_filter_le _ _)

theorem eraseDups_of_nodup {α : Type} [BEq α] [LawfulBEq α] {xs : List α} (h : xs.Nodup) :
    xs.eraseDups = xs := by
  induction xs with
  | nil => rfl
  | cons x xs ih =>
    obtain ⟨hx, hxs⟩ := List.nodup_cons.mp h
    have hfilter : xs.filter (fun y => !y == x) = xs := by
      refine List.filter_eq_self.mpr fun y hy => ?_
      simpa using fun heq : y = x => hx (heq ▸ hy)
    rw [List.eraseDups_cons, hfilter, ih hxs]

namespace IsAlias

theorem toLower_of_isDigit {c : Char} (h : c.isDigit) : c.toLower = c := by
  have hle : c.toNat ≤ 57 := (Char.isDigit_iff_toNat.mp h).2
  apply Ascii.toLower_eq_self
  rw [Bool.eq_false_iff, Ne, Ascii.isUpper_iff]
  omega

/-- Aliases that differ only in the case of letters are the same. -/
theorem eq_of_sameName {s t : String} (hs : IsAlias s) (ht : IsAlias t)
    (h : Row.sameName s t) : s = t := by
  obtain ⟨c, cs, hs, hc, hcs⟩ := hs.toList_eq
  obtain ⟨d, ds, ht, hd, hds⟩ := ht.toList_eq
  have hlower : ∀ ds : List Char, (∀ d ∈ ds, d.isDigit) → ds.map Char.toLower = ds := by
    intro ds hds
    exact (List.map_congr_left fun d hd => toLower_of_isDigit (hds d hd)).trans (List.map_id ds)
  rw [Row.sameName, hs, ht, beq_iff_eq, List.map_cons, List.map_cons, hlower cs hcs,
    hlower ds hds] at h
  obtain ⟨hcd, rfl⟩ := List.cons.inj h
  have hcd' : c = d := by
    rcases hc with rfl | rfl <;> rcases hd with rfl | rfl
    · rfl
    · exact absurd hcd (by decide)
    · exact absurd hcd (by decide)
    · rfl
  apply String.ext
  rw [hs, ht, hcd']

end IsAlias

namespace Aliases

variable {a : Aliases AliasKey} {k k' : AliasKey} {s : String}

/-- Different keys have different aliases. -/
theorem sameName_eq_false (h : a.Sound) {t : String} (hs : a.get? k = some s)
    (ht : a.get? k' = some t) (hne : k ≠ k') : Row.sameName s t = false := by
  have halias : ∀ {k s}, a.get? k = some s → IsAlias s := fun hget =>
    h.isAlias _ (List.mem_map_of_mem (mem_used_of_get? hget))
  rw [Bool.eq_false_iff]
  intro hsame
  obtain rfl := (halias hs).eq_of_sameName (halias ht) hsame
  exact hne (key_eq_of_get? h.nodup hs ht)

theorem pairwise_names (h : a.Sound) {es : List (AliasKey × String)}
    (hes : ∀ e ∈ es, a.get? e.1 = some e.2) (hkeys : (es.map Prod.fst).Nodup) :
    (es.map Prod.snd).Pairwise fun s t => Row.sameName s t = false := by
  rw [List.Nodup, List.pairwise_map] at hkeys
  exact List.pairwise_map.mpr (hkeys.imp_of_mem fun {d e} hd he hne =>
    sameName_eq_false h (hes d hd) (hes e he) hne)

end Aliases

namespace JoinPlan

section

variable {schema : Schema} {kind : Sql.JoinKind} {anchor : ColumnRef} {p q : JoinPlan}

theorem sound_allot (h : p.aliases.Sound) (key : AliasKey) (hkey : ∀ id, key ≠ .table id) :
    (p.allot key AliasKey.columnStem).2.aliases.Sound :=
  Aliases.sound_allot h (.inr rfl) fun id hid => absurd hid (hkey id)

theorem map_fst_addRequested {requested : List (AspectId × Nat)} {xs : List AspectId}
    (h : requested.map Prod.fst = xs.eraseDups) (a : AspectId) (n : Nat) :
    (addRequested requested a n).map Prod.fst = (xs ++ [a]).eraseDups := by
  rw [List.eraseDups_append, addRequested, List.cons_removeAll]
  have hlookup : (requested.lookup a).isSome ↔ a ∈ xs := by
    rw [isSome_lookup_iff, h, List.mem_eraseDups]
  by_cases ha : a ∈ xs
  · simp [hlookup, ha, h]
  · simp [hlookup, ha, h, List.eraseDups_cons]

theorem map_fst_joinAspects {requested all : List (AspectId × Nat)} {xs aspects : List AspectId}
    (h : p.joinAspects schema kind anchor requested aspects = .ok (all, q))
    (hrequested : requested.map Prod.fst = xs.eraseDups) :
    all.map Prod.fst = (xs ++ aspects).eraseDups := by
  induction aspects generalizing requested xs p with
  | nil =>
    obtain ⟨rfl, -⟩ := Prod.mk.inj (pure_eq_ok.mp h)
    rwa [List.append_nil]
  | cons a rest ih =>
    cases hjoin : p.joinAspect schema kind anchor a with
    | error e =>
      rw [joinAspects, List.foldlM_cons] at h
      simp [hjoin] at h
    | ok r =>
      rw [joinAspects_cons hjoin] at h
      rw [ih h (map_fst_addRequested hrequested a r.1), List.append_assoc, List.singleton_append]

/-- The outputs of mentions go by the aliases of these, each mention once. -/
theorem names_outputAttributes {select : List Mention} {outputs attributes : List (Nat × String)}
    {columns : List Sql.Output} (hsound : p.aliases.Sound)
    (houtputs : ∀ e ∈ outputs, p.aliases.get? (.mention e.1) = some e.2)
    (hnodup : (outputs.map Prod.fst).Nodup)
    (h : outputAttributes select outputs p = .ok (columns, attributes, q)) :
    q.aliases.Sound ∧ p.aliases.Keeps q.aliases ∧
      (∀ e ∈ attributes, q.aliases.get? (.mention e.1) = some e.2) ∧
      (attributes.map Prod.fst).Nodup ∧
      ∃ new, attributes = outputs ++ new ∧ columns.map Sql.Output.aliasName =
        new.map fun e => some e.2 := by
  induction select generalizing outputs columns p with
  | nil =>
    obtain ⟨rfl, rfl, rfl⟩ : columns = [] ∧ attributes = outputs ∧ q = p := by
      simpa [outputAttributes, eq_comm] using h
    exact ⟨hsound, .refl _, houtputs, hnodup, [], by simp, rfl⟩
  | cons m rest ih =>
    unfold outputAttributes at h
    split at h
    · exact ih hsound houtputs hnodup h
    · rename_i hlookup
      split at h
      · exact ih hsound houtputs hnodup h
      · obtain ⟨column, -, h⟩ := bind_eq_ok.mp h
        obtain ⟨⟨columns', attributes', p'⟩, hrest, h⟩ := bind_eq_ok.mp h
        obtain ⟨rfl, rfl, rfl⟩ := by simpa using h
        have hkeeps := p.aliases.keeps_allot (.mention m.index) AliasKey.columnStem
        have hget := p.aliases.get?_allot (.mention m.index) AliasKey.columnStem
        have hnew : ∀ e ∈ outputs ++ [(m.index, (p.allot (.mention m.index)
            AliasKey.columnStem).1)], (p.allot (.mention m.index)
              AliasKey.columnStem).2.aliases.get? (.mention e.1) = some e.2 := by
          intro e he
          rcases List.mem_append.mp he with he | he
          · exact hkeeps _ _ (houtputs e he)
          · rw [List.mem_singleton.mp he]
            exact hget
        have hnodup' : ((outputs ++ [(m.index, (p.allot (.mention m.index)
            AliasKey.columnStem).1)]).map Prod.fst).Nodup := by
          rw [List.map_append, List.nodup_append]
          refine ⟨hnodup, List.nodup_singleton _, ?_⟩
          rintro i hi j hj rfl
          obtain rfl : i = m.index := List.mem_singleton.mp hj
          exact hlookup (isSome_lookup_iff.mpr hi)
        obtain ⟨hsound', hkeeps', hattributes, hnodup'', new, rfl, hnames⟩ :=
          ih (sound_allot hsound _ (by simp)) hnew hnodup' hrest
        exact ⟨hsound', hkeeps.trans hkeeps', hattributes, hnodup'',
          (m.index, (p.allot (.mention m.index) AliasKey.columnStem).1) :: new, by simp,
          congrArg (_ :: ·) hnames⟩

end

end JoinPlan

/-- The columns of a primary statement: the id of the item, the presence of every requested aspect
and the values of the selected attributes. -/
def ItemStatement.names (s : ItemStatement) : List String :=
  s.itemId :: (s.presence.map Prod.snd ++ s.attributes.map Prod.snd)

namespace Primary

theorem names_outputPresence {column : String} {requested : List (AspectId × Nat)}
    {p q : JoinPlan} {columns : List Sql.Output} {presence : List (AspectId × String)}
    (hsound : p.aliases.Sound)
    (h : outputPresence column requested p = .ok (columns, presence, q)) :
    q.aliases.Sound ∧ p.aliases.Keeps q.aliases ∧
      columns.map Sql.Output.aliasName = presence.map (fun e => some e.2) ∧
      ∃ es : List (AliasKey × String), (∀ e ∈ es, q.aliases.get? e.1 = some e.2) ∧
        es.map Prod.fst = requested.map (fun e => .presence e.2) ∧
        es.map Prod.snd = presence.map Prod.snd := by
  induction requested generalizing columns presence p with
  | nil =>
    obtain ⟨rfl, rfl, rfl⟩ : columns = [] ∧ presence = [] ∧ q = p := by
      simpa [outputPresence, eq_comm] using h
    exact ⟨hsound, .refl _, rfl, [], by simp, rfl, rfl⟩
  | cons e rest ih =>
    obtain ⟨a, n⟩ := e
    obtain ⟨c, -, h⟩ := bind_eq_ok.mp h
    obtain ⟨⟨columns', presence', p'⟩, hrest, h⟩ := bind_eq_ok.mp h
    obtain ⟨rfl, rfl, rfl⟩ := by simpa using h
    have hkeeps := p.aliases.keeps_allot (.presence n) AliasKey.columnStem
    have hget := p.aliases.get?_allot (.presence n) AliasKey.columnStem
    obtain ⟨hsound', hkeeps', hcolumns, es, hes, hkeys, hnames⟩ :=
      ih (JoinPlan.sound_allot hsound _ (by simp)) hrest
    exact ⟨hsound', hkeeps.trans hkeeps', congrArg (_ :: ·) hcolumns,
      (.presence n, (p.allot (.presence n) AliasKey.columnStem).1) :: es,
      List.forall_mem_cons.mpr ⟨hkeeps' _ _ hget, hes⟩, congrArg (_ :: ·) hkeys,
      congrArg (_ :: ·) hnames⟩

/-- What is read from the rows of a primary statement, each from an output of its own. -/
structure Columns (schema : Schema) (q : Primary) (f : Frame) (s : ItemStatement) : Prop where
  outputs : s.select.outputs.map Sql.Output.aliasName = s.names.map some
  names : s.names.Pairwise fun a b => Row.sameName a b = false
  itemId : JoinPlan.outputColumn f.anchor s.itemId ∈ s.select.outputs
  nodup_presence : (s.presence.map Prod.fst).Nodup
  mem_presence : ∀ a, a ∈ s.presence.map Prod.fst ↔ a ∈ q.necessary ∨ a ∈ q.optional
  presence : ∀ e ∈ s.presence, ∃ n c, (e.1, n) ∈ f.requested ∧
    f.plan.tables.qualify ⟨n, schema.naming.itemIdColumn⟩ = .ok c ∧
    JoinPlan.outputColumn c e.2 ∈ s.select.outputs
  select : ∀ m ∈ q.select, ∃ a c, s.attributes.lookup m.index = some a ∧ f.plan.Finds m c ∧
    JoinPlan.outputColumn c a ∈ s.select.outputs

section

variable {schema : Schema} {ms : Mentions} {predicate : Predicate} {q : Primary} {f : Frame}
  {aliases : Aliases AliasKey}

/-- The requested aspects are the necessary and then the optional ones, each once. -/
theorem map_fst_requested (hframe : q.frame schema predicate aliases = .ok f) :
    f.requested.map Prod.fst = (q.necessary ++ q.optional).eraseDups := by
  obtain ⟨base, strict, p₀, p₁, p₂, p₃, -, hstrict, hloose, -⟩ := frame_eq_ok_iff.mp hframe
  have hnecessary : strict.map Prod.fst = ([] ++ q.necessary).eraseDups :=
    JoinPlan.map_fst_joinAspects hstrict rfl
  exact JoinPlan.map_fst_joinAspects hloose hnecessary

theorem nodup_requested (hframe : q.frame schema predicate aliases = .ok f) :
    (f.requested.map Prod.fst).Nodup :=
  map_fst_requested hframe ▸ nodup_eraseDups _

/-- The main tables of the requested aspects are different. -/
theorem nodup_tables (hframe : q.frame schema predicate aliases = .ok f)
    (hids : (f.plan.tables.instances.map TableInstance.id).Nodup)
    (hrequested : f.plan.Requested f.requested) : (f.requested.map Prod.snd).Nodup := by
  have hfst := nodup_requested hframe
  rw [List.Nodup, List.pairwise_map] at hfst
  refine List.pairwise_map.mpr (hfst.imp_of_mem fun {d e} hd he hne heq => ?_)
  obtain ⟨i, hi, hid, hpurpose⟩ := hrequested d hd
  obtain ⟨j, hj, hjd, hpurpose'⟩ := hrequested e he
  obtain rfl := List.inj_on_of_nodup_map hids hi hj (hid.trans (heq.trans hjd.symm))
  exact hne (Purpose.aspect.inj (hpurpose.symm.trans hpurpose'))

theorem nodup_keys {tables : List (AspectId × Nat)} {attributes : List (Nat × String)}
    (htables : (tables.map Prod.snd).Nodup) (hattributes : (attributes.map Prod.fst).Nodup) :
    (AliasKey.itemId :: (tables.map (fun e => AliasKey.presence e.2) ++
      attributes.map fun e => AliasKey.mention e.1)).Nodup := by
  have hpresence := htables.map fun n k (h : AliasKey.presence n = AliasKey.presence k) =>
    AliasKey.presence.inj h
  have hmention := hattributes.map fun n k (h : AliasKey.mention n = AliasKey.mention k) =>
    AliasKey.mention.inj h
  rw [List.map_map] at hpresence hmention
  rw [List.nodup_cons, List.nodup_append]
  refine ⟨by simp, hpresence, hmention, ?_⟩
  intro key hkey key' hkey'
  obtain ⟨e, -, rfl⟩ := List.mem_map.mp hkey
  obtain ⟨e', -, rfl⟩ := List.mem_map.mp hkey'
  simp

theorem names_items (hframe : q.frame schema predicate aliases = .ok f)
    (hsound : f.plan.aliases.Sound) (htables : (f.requested.map Prod.snd).Nodup)
    {dialect : Sql.Dialect} {s : ItemStatement} {aliases' : Aliases AliasKey}
    (hitems : q.items schema dialect predicate aliases = .ok (s, aliases')) :
    s.select.outputs.map Sql.Output.aliasName = s.names.map some ∧
      s.names.Pairwise fun a b => Row.sameName a b = false := by
  obtain ⟨f', hframe', presenceColumns, presence, p₁, hpresence, columns, attributes, p₂,
    hattributes, rfl, -⟩ := items_eq_ok_iff.mp hitems
  obtain rfl := Except.ok.inj (hframe.symm.trans hframe')
  have hget := f.plan.aliases.get?_allot .itemId AliasKey.columnStem
  obtain ⟨hsound₁, hkeeps₁, hnames₁, es, hes, hkeys, hpresences⟩ :=
    names_outputPresence (JoinPlan.sound_allot hsound .itemId (by simp)) hpresence
  obtain ⟨hsound₂, hkeeps₂, hget₂, hnodup, new, hnew, hnames₂⟩ :=
    JoinPlan.names_outputAttributes hsound₁ (by simp) (by simp) hattributes
  obtain rfl : attributes = new := hnew
  constructor
  · simp only [ItemStatement.names, Frame.itemSelect, List.map_cons, List.map_append, hnames₁,
      hnames₂, List.map_map]
    rfl
  · -- Every name is the alias of a key, and the keys are all different.
    have hpairs : ∀ e ∈ (AliasKey.itemId, (f.plan.allot .itemId AliasKey.columnStem).1) ::
        (es ++ attributes.map fun e => (AliasKey.mention e.1, e.2)),
        p₂.aliases.get? e.1 = some e.2 := by
      intro e he
      rcases List.mem_cons.mp he with rfl | he
      · exact hkeeps₂ _ _ (hkeeps₁ _ _ hget)
      · rcases List.mem_append.mp he with he | he
        · exact hkeeps₂ _ _ (hes e he)
        · obtain ⟨d, hd, rfl⟩ := List.mem_map.mp he
          exact hget₂ d hd
    have hall := Aliases.pairwise_names hsound₂ hpairs ?_
    · rw [List.map_cons, List.map_append, hpresences, List.map_map] at hall
      exact hall
    · rw [List.map_cons, List.map_append, hkeys, List.map_map]
      exact nodup_keys htables hnodup

theorem columns_items (h : q.Known schema ms predicate) (hs : schema.Proper)
    (haliases : aliases.Sound) (dialect : Sql.Dialect) :
    ∃ f s aliases', q.frame schema predicate aliases = .ok f ∧
      q.items schema dialect predicate aliases = .ok (s, aliases') ∧ q.Columns schema f s := by
  obtain ⟨ops, db, hdb⟩ := exists_keyed schema
  obtain ⟨f, hframe, hf⟩ := fits_frame h hdb hs haliases
  obtain ⟨s, aliases', hitems, -, -, hitem, hfst, hpresence, hselect⟩ :=
    hf.items_eq_ok hdb h.select hframe dialect
  obtain ⟨anchor, hfits, -⟩ := hf.plan
  have hids : (f.plan.tables.instances.map TableInstance.id).Nodup :=
    hfits.sound.ordered.imp fun hlt => Nat.ne_of_lt hlt
  obtain ⟨houtputs, hnames⟩ := names_items hframe hfits.sound.aliases
    (nodup_tables hframe hids hf.requested) hitems
  refine ⟨f, s, aliases', hframe, hitems, houtputs, hnames, hitem, ?_, ?_, hpresence, hselect⟩
  · exact hfst ▸ nodup_requested hframe
  · exact fun a => hfst ▸ hf.mem_requested a

end

end Primary

namespace Collection

/-- What is read from the rows of a collection, each from an output of its own. -/
structure Columns (f : Frame) (s : CorrelatedStatement) : Prop where
  outputs : s.select.outputs =
    [JoinPlan.outputColumn f.anchor s.itemId, JoinPlan.outputColumn f.value s.value]
  names : Row.sameName s.itemId s.value = false

section

variable {schema : Schema} {ms : Mentions} {predicate : Predicate} {target : Attribute}
  {necessary : List AspectId} {aliases : Aliases AliasKey}

theorem names_correlated {f : Frame}
    (hframe : frame schema predicate target necessary aliases = .ok f)
    (hsound : f.plan.aliases.Sound) {s : CorrelatedStatement} {aliases' : Aliases AliasKey}
    (hcorrelated : correlated schema predicate target necessary aliases = .ok (s, aliases')) :
    Row.sameName s.itemId s.value = false := by
  obtain ⟨f', hframe', keys, -, rfl, -⟩ := correlated_eq_ok_iff.mp hcorrelated
  obtain rfl := Except.ok.inj (hframe.symm.trans hframe')
  have hsound₁ := JoinPlan.sound_allot hsound .itemId (by simp)
  have hsound₂ := JoinPlan.sound_allot hsound₁ .value (by simp)
  have hitem := f.plan.aliases.get?_allot .itemId AliasKey.columnStem
  exact Aliases.sameName_eq_false hsound₂ (Aliases.keeps_allot _ .value _ _ _ hitem)
    (Aliases.get?_allot _ AliasKey.value _) (by decide)

theorem columns_correlated (h : Known schema ms predicate target necessary) (hs : schema.Proper)
    (haliases : aliases.Sound) :
    ∃ f s aliases', frame schema predicate target necessary aliases = .ok f ∧
      correlated schema predicate target necessary aliases = .ok (s, aliases') ∧ Columns f s := by
  obtain ⟨ops, db, hdb⟩ := exists_keyed schema
  obtain ⟨f, hframe, hf⟩ := fits_frame h hdb hs haliases
  obtain ⟨s, aliases', hcorrelated, -, houtputs⟩ := hf.correlated_eq_ok hframe
  exact ⟨f, s, aliases', hframe, hcorrelated, houtputs,
    names_correlated hframe hf.plan.sound.aliases hcorrelated⟩

end

end Collection

end AspectQuery
