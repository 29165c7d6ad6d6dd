import AspectQuery.Proofs.Query.Exactness
import AspectQuery.Proofs.Schema.Declared
/-!
# The normal form of a request

A query has each aspect of its request once, the necessary aspects before the optional ones, and its
primary statement shows them in this order. Entries of a request that say nothing new leave no trace
in the query, and to select nothing is to select everything.
-/

set_option autoImplicit false

namespace AspectQuery

/-- A list with further entries, which are idle or come again after themselves. -/
inductive Padded {α : Type} (idle : α → Prop) (xs : List α) : List α → Prop
  | refl : Padded idle xs xs
  | insert {before after : List α} {x : α} (h : Padded idle xs (before ++ after))
      (hx : x ∈ before ∨ idle x) : Padded idle xs (before ++ x :: after)

section

variable {α : Type} [BEq α] [LawfulBEq α]

theorem eraseDups_insert {before after : List α} {x : α} (hx : x ∈ before) :
    (before ++ x :: after).eraseDups = (before ++ after).eraseDups := by
  rw [List.eraseDups_append, List.eraseDups_append, List.cons_removeAll]
  simp [hx]

theorem Padded.eraseDups_filter {idle : α → Prop} {xs ys : List α} (h : Padded idle xs ys)
    {p : α → Bool} (hidle : ∀ x, idle x → p x = false) :
    (ys.filter p).eraseDups = (xs.filter p).eraseDups := by
  induction h with
  | refl => rfl
  | @insert before after x _ hx ih =>
    rw [← ih, List.filter_append, List.filter_append, List.filter_cons]
    split
    · rename_i hp
      refine eraseDups_insert (List.mem_filter.mpr ⟨hx.resolve_right fun hi => ?_, hp⟩)
      exact Bool.noConfusion (hp.symm.trans (hidle x hi))
    · rfl

theorem Padded.eraseDups {xs ys : List α} (h : Padded (fun _ => False) xs ys) :
    ys.eraseDups = xs.eraseDups := by
  have hfilter := h.eraseDups_filter (p := fun _ => true) fun _ hx => hx.elim
  rwa [List.filter_true, List.filter_true] at hfilter

end

namespace Primary

/-- An output for an aspect, the column of item ids in its main table. -/
def Frame.Shows (schema : Schema) (f : Frame) (e : AspectId × String) (o : Sql.Output) : Prop :=
  ∃ n c, f.plan.Has (.aspect e.1) n ∧
    f.plan.tables.qualify ⟨n, schema.naming.itemIdColumn⟩ = .ok c ∧ o = JoinPlan.outputColumn c e.2

/-- A primary statement lists the id of the item, then the aspects in turn, then the selected
attributes. -/
structure Lists (schema : Schema) (f : Frame) (aspects : List AspectId) (s : ItemStatement) :
    Prop where
  aspects : s.presence.map Prod.fst = aspects
  outputs : ∃ presence attributes,
    s.select.outputs = JoinPlan.outputColumn f.anchor s.itemId :: (presence ++ attributes) ∧
      List.Forall₂ (f.Shows schema) s.presence presence ∧
      attributes.map Sql.Output.aliasName = s.attributes.map fun e => some e.2

theorem forall₂_outputPresence {column : String} {requested : List (AspectId × Nat)}
    {p q : JoinPlan} {columns : List Sql.Output} {presence : List (AspectId × String)}
    (h : outputPresence column requested p = .ok (columns, presence, q)) :
    presence.map Prod.fst = requested.map Prod.fst ∧
      List.Forall₂ (fun e o => ∃ n c, (e.1, n) ∈ requested ∧
        p.tables.qualify ⟨n, column⟩ = .ok c ∧ o = JoinPlan.outputColumn c e.2)
        presence columns := by
  induction requested generalizing columns presence p with
  | nil =>
    obtain ⟨rfl, rfl, rfl⟩ : columns = [] ∧ presence = [] ∧ q = p := by
      simpa [outputPresence, eq_comm] using h
    exact ⟨rfl, .nil⟩
  | cons e rest ih =>
    obtain ⟨a, n⟩ := e
    obtain ⟨c, hc, h⟩ := bind_eq_ok.mp h
    obtain ⟨⟨columns', presence', p'⟩, hrest, h⟩ := bind_eq_ok.mp h
    obtain ⟨rfl, rfl, rfl⟩ := by simpa using h
    obtain ⟨hfst, hshows⟩ := ih hrest
    refine ⟨congrArg (a :: ·) hfst, .cons ⟨n, c, List.mem_cons_self, hc, rfl⟩ (hshows.imp ?_)⟩
    rintro e o ⟨n', c', hn', hc', ho⟩
    exact ⟨n', c', List.mem_cons_of_mem _ hn', hc', ho⟩

section

variable {schema : Schema} {ms : Mentions} {predicate : Predicate} {q : Primary} {f : Frame}
  {aliases : Aliases AliasKey}

theorem lists_items (h : q.Known schema ms predicate) (hs : schema.Proper)
    (haliases : aliases.Sound) (hframe : q.frame schema predicate aliases = .ok f)
    {dialect : Sql.Dialect} {s : ItemStatement} {aliases' : Aliases AliasKey}
    (hitems : q.items schema dialect predicate aliases = .ok (s, aliases'))
    (hnames : s.select.outputs.map Sql.Output.aliasName = s.names.map some) :
    Lists schema f (q.necessary ++ q.optional).eraseDups s := by
  obtain ⟨ops, db, hdb⟩ := exists_keyed schema
  obtain ⟨f', hframe', hf⟩ := fits_frame h hdb hs haliases
  obtain rfl := Except.ok.inj (hframe.symm.trans hframe')
  obtain ⟨f', hframe', presenceColumns, presence, p₁, hpresence, columns, attributes, p₂, -, rfl,
    -⟩ := items_eq_ok_iff.mp hitems
  obtain rfl := Except.ok.inj (hframe.symm.trans hframe')
  obtain ⟨hfst, hshows⟩ := forall₂_outputPresence hpresence
  refine ⟨hfst.trans (map_fst_requested hframe), presenceColumns, columns, rfl, hshows.imp ?_, ?_⟩
  · rintro e o ⟨n, c, hn, hc, ho⟩
    exact ⟨n, c, hf.requested _ hn, hc, ho⟩
  · -- The names of all outputs are known, and there is one output for each aspect.
    simp only [ItemStatement.names, Frame.itemSelect, List.map_cons, List.map_append] at hnames
    refine ((List.append_inj (List.cons.inj hnames).2 ?_).2).trans (List.map_map ..)
    simp [hshows.length_eq]

end

end Primary

namespace ItemQuery

section

variable {schema : Schema} {options : Options} {r : Request} {q : ItemQuery}

theorem Compiled.lists_primary (hs : schema.Proper) (h : q.Compiled schema) :
    ∃ f s, q.primary.frame schema q.predicate {} = .ok f ∧ q.primaryStatement = .ok s ∧
      q.primary.Columns schema f s ∧
      Primary.Lists schema f (q.necessary ++ q.optional).eraseDups s := by
  obtain ⟨ms, hknown⟩ := h.primary
  obtain ⟨f, s, aliases, hframe, hitems, hcolumns⟩ :=
    Primary.columns_items hknown hs Aliases.sound_empty q.options.dialect
  have hlists := Primary.lists_items hknown hs Aliases.sound_empty hframe hitems hcolumns.outputs
  exact ⟨f, s, hframe, h.primaryStatement_eq_ok_iff.mpr ⟨aliases, hitems⟩, hcolumns, hlists⟩

theorem ofRequest_padded (hq : ofRequest schema options r = .ok q)
    {necessary optional : List AspectId}
    (hnecessary : Padded (fun _ => False) r.necessary necessary)
    (hoptional :
      Padded (fun a => a ∈ r.necessary ∨ (schema.aspect? a).isNone) r.optional optional) :
    ofRequest schema options { r with necessary, optional } = .ok q := by
  obtain ⟨targets, ms, h⟩ := ofRequest_eq_ok_iff.mp hq
  obtain ⟨hhas, hall⟩ := Schema.requireAll_eq_ok.mp h.necessary
  have hmem : ∀ a, a ∈ necessary ↔ a ∈ r.necessary := fun a => by
    rw [← List.mem_eraseDups, hnecessary.eraseDups, List.mem_eraseDups]
  have hrequire : schema.requireAll necessary = .ok q.necessary :=
    Schema.requireAll_eq_ok.mpr
      ⟨fun a ha => hhas a ((hmem a).mp ha), hnecessary.eraseDups.trans hall⟩
  have heq : optionalAspects schema q.necessary optional =
      optionalAspects schema q.necessary r.optional := by
    rw [optionalAspects_eq, optionalAspects_eq, List.filter_filter, List.filter_filter, ← hall]
    refine hoptional.eraseDups_filter fun a ha => ?_
    rcases ha with ha | ha
    · simp [ha]
    · simp [Option.isNone_iff_eq_none.mp ha]
  exact ofRequest_eq_ok_iff.mpr
    ⟨targets, ms, { h with necessary := hrequire, selection := heq ▸ h.selection }⟩

/-- To select all attributes of the aspects one by one is to select them without naming any. -/
theorem selection_allAttributes (hs : schema.Proper) (necessary optional : List AspectId) :
    selection schema necessary optional
        ((allAttributes schema (necessary ++ optional)).map Attribute.path) =
      .ok (allAttributes schema (necessary ++ optional), optional) := by
  unfold selection
  split
  · rfl
  · have hmem : ∀ x ∈ allAttributes schema (necessary ++ optional), schema.find x.path = .ok x :=
      fun x hx => Schema.find_eq_ok.mpr (lookup_of_mem_allAttributes hs hx).1
    have hfind : ((allAttributes schema (necessary ++ optional)).map Attribute.path).mapM
        schema.find = .ok (allAttributes schema (necessary ++ optional)) := by
      rw [List.mapM_map]
      exact (mapM_eq_ok_map hmem).trans (congrArg Except.ok (List.map_id' _))
    refine bind_eq_ok.mpr ⟨_, hfind, congrArg Except.ok (Prod.ext rfl ?_)⟩
    -- Every aspect of the attributes is among the necessary or the optional ones.
    refine List.foldlRecOn (motive := (· = optional)) _ _ rfl fun all hall id hid => ?_
    obtain ⟨x, hx, rfl⟩ := List.mem_map.mp hid
    rw [hall]
    rcases List.mem_append.mp (lookup_of_mem_allAttributes hs hx).2 with hx | hx
    · rw [if_pos hx]
    · rw [addOnce, if_pos hx, ite_self]

/-- The attributes of known aspects as they are declared. -/
theorem map_path_allAttributes {d : SchemaDefinition} {naming : Naming}
    (h : Schema.ofDefinition d naming = .ok schema) {ids : List AspectId} (hids : schema.Has ids) :
    (allAttributes schema ids).map Attribute.path = ids.flatMap d.paths := by
  induction ids with
  | nil => rfl
  | cons id rest ih =>
    obtain ⟨hid, hrest⟩ := List.forall_mem_cons.mp hids
    obtain ⟨a, ha⟩ := Option.isSome_iff_exists.mp hid
    rw [List.flatMap_cons, ← ih hrest, Schema.paths_of_aspect? h ha, ← List.map_append]
    simp [allAttributes, ha]

theorem ofRequest_paths {d : SchemaDefinition} {naming : Naming}
    (hschema : Schema.ofDefinition d naming = .ok schema)
    (hq : ofRequest schema options r = .ok q) (hselect : r.select = []) :
    ofRequest schema options { r with select := (q.necessary ++ q.optional).flatMap d.paths } =
      .ok q := by
  have hs := Schema.proper_of_ofDefinition hschema
  obtain ⟨ms, hknown⟩ := (compiled_ofRequest hs hq).primary
  have hhas : schema.Has (q.necessary ++ q.optional) := by
    intro a ha
    rcases List.mem_append.mp ha with ha | ha
    · exact hknown.necessary a ha
    · exact hknown.optional a ha
  rw [← map_path_allAttributes hschema hhas]
  obtain ⟨targets, ms, h⟩ := ofRequest_eq_ok_iff.mp hq
  have hselection := h.selection
  rw [hselect] at hselection
  obtain ⟨rfl, hoptional⟩ := Prod.mk.inj (pure_eq_ok.mp hselection)
  have hall := selection_allAttributes hs q.necessary q.optional
  rw [← hoptional] at hall ⊢
  exact ofRequest_eq_ok_iff.mpr ⟨_, ms, { h with selection := hoptional ▸ hall }⟩

end

/-- The normal form of a request. -/
structure Normal (d : SchemaDefinition) (schema : Schema) (options : Options) (r : Request)
    (q : ItemQuery) : Prop where
  /-- The necessary aspects in the order in which they first come. -/
  necessary : q.necessary = r.necessary.eraseDups
  /-- The known optional aspects and those of the selected attributes, in the same way, without the
  necessary ones. -/
  optional : q.optional = ((r.optional.filter (fun a => (schema.aspect? a).isSome) ++
    r.select.map AttributePath.aspect).filter fun a => a ∉ r.necessary).eraseDups
  disjoint : q.necessary.Disjoint q.optional
  columns : ∃ f s, q.primary.frame schema q.predicate {} = .ok f ∧ q.primaryStatement = .ok s ∧
    q.primary.Columns schema f s ∧ Primary.Lists schema f (q.necessary ++ q.optional) s
  /-- Repeated aspects, and optional ones that are necessary or unknown, leave no trace. The query
  is the same, and with it what it explains and what it makes of rows. -/
  padded : ∀ necessary optional : List AspectId, Padded (fun _ => False) r.necessary necessary →
    Padded (fun a => a ∈ r.necessary ∨ (schema.aspect? a).isNone) r.optional optional →
    ofRequest schema options { r with necessary, optional } = .ok q
  /-- To select nothing is to select all attributes, as they are declared. -/
  select : r.select = [] → ofRequest schema options
    { r with select := (q.necessary ++ q.optional).flatMap d.paths } = .ok q

theorem normal_ofRequest {d : SchemaDefinition} {naming : Naming} {schema : Schema}
    (hschema : Schema.ofDefinition d naming = .ok schema) {options : Options} {r : Request}
    {q : ItemQuery} (hq : ofRequest schema options r = .ok q) : q.Normal d schema options r := by
  have hs := Schema.proper_of_ofDefinition hschema
  obtain ⟨hnecessary, hoptional⟩ := aspects_ofRequest hs hq
  have hdisjoint : q.necessary.Disjoint q.optional := by
    intro a ha ha'
    rw [hnecessary, List.mem_eraseDups] at ha
    rw [hoptional, List.mem_eraseDups, List.mem_filter, decide_eq_true_iff] at ha'
    exact ha'.2 ha
  have hnodup : (q.necessary ++ q.optional).Nodup :=
    List.nodup_append'.mpr
      ⟨hnecessary ▸ nodup_eraseDups _, hoptional ▸ nodup_eraseDups _, hdisjoint⟩
  obtain ⟨f, s, hframe, hprimary, hcolumns, hlists⟩ := (compiled_ofRequest hs hq).lists_primary hs
  rw [eraseDups_of_nodup hnodup] at hlists
  exact ⟨hnecessary, hoptional, hdisjoint, ⟨f, s, hframe, hprimary, hcolumns, hlists⟩,
    fun _ _ hn ho => ofRequest_padded hq hn ho, ofRequest_paths hschema hq⟩

open Predicate (films) in
/-- Films, and books with their titles. -/
def filmsAndBooks : SchemaDefinition where
  aspects := films.aspects ++ [{
    id := "book"
    attributes := [{ name := "title", cardinality := .inline, valueType := .string }] }]

theorem normal_ofRequest_films :
    let r : Request := { necessary := ["film", "film"], optional := ["song", "film", "book"] }
    ∃ schema, Schema.ofDefinition filmsAndBooks {} = .ok schema ∧
      ∃ q, ofRequest schema {} r = .ok q ∧ q.Normal filmsAndBooks schema {} r ∧
        q.necessary = ["film"] ∧ q.optional = ["book"] ∧
        ofRequest schema {} { r with
          select := [⟨"film", "title"⟩, ⟨"film", "genre"⟩, ⟨"book", "title"⟩] } = .ok q := by
  intro r
  obtain ⟨schema, hschema, q, hq, hnecessary, hoptional⟩ : ∃ schema,
      Schema.ofDefinition filmsAndBooks {} = .ok schema ∧ ∃ q, ofRequest schema {} r = .ok q ∧
        q.necessary = ["film"] ∧ q.optional = ["book"] :=
    ⟨_, rfl, _, rfl, rfl, rfl⟩
  have hnormal := normal_ofRequest hschema hq
  have hselect := hnormal.select rfl
  rw [hnecessary, hoptional] at hselect
  exact ⟨schema, hschema, q, hq, hnormal, hnecessary, hoptional, hselect⟩

end ItemQuery

end AspectQuery
