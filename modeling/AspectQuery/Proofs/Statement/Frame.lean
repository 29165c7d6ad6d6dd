import AspectQuery.Proofs.Statement.Aspects
import AspectQuery.Proofs.Statement.Rows
import AspectQuery.Statement.Primary
/-!
# The frame of a primary statement

The base has one row for each item, and the items that have all necessary aspects have a row in it.
The frame keeps the rows of these items and finds the value of every mention.
-/

set_option autoImplicit false

namespace AspectQuery

open Sql (Column Contents Operators Record Scope)

namespace JoinPlan

section

variable {ops : Operators} {db : Contents} {schema : Schema} {ms : Mentions} {base : String}
  {anchor : ColumnRef} {kept kept' : Record → Bool} {p q : JoinPlan}

theorem Fits.cell_of_grows (h : p.Fits ops db schema ms base anchor kept)
    (h' : q.Fits ops db schema ms base anchor kept') (hgrows : p.Grows q) {m : Mention}
    {c : ColumnRef} (hm : m.Known schema ms) (hc : p.column? m = some c) : q.cell m = p.cell m := by
  have hold := Tables.qualify_of_grows h'.sound hgrows.tables (h.cell_eq hm hc).1
  have hnew := (h'.cell_eq hm (hgrows.columns m c hc)).1
  exact Except.ok.inj (hnew.symm.trans hold)

end

end JoinPlan

namespace Primary

/-- A row for each item, with further outputs. -/
def Frame.itemSelect (dialect : Sql.Dialect) (q : Primary) (f : Frame) (outputs : List Sql.Output) :
    Sql.Select :=
  { f.statement.select with
    outputs :=
      JoinPlan.outputColumn f.anchor (f.plan.allot .itemId AliasKey.columnStem).1 :: outputs
    orderBy := itemOrder dialect q f.anchor f.order
    limit := q.limit
    offset := q.offset }

/-- The different rows of an item and further outputs. -/
def Frame.rows (f : Frame) (outputs : List Sql.Output) : Sql.Select :=
  { f.statement.select with
    distinct := true
    outputs :=
      JoinPlan.outputColumn f.anchor (f.plan.allot .itemId AliasKey.columnStem).1 :: outputs }

section

variable {schema : Schema} {predicate : Predicate} {q : Primary} {f : Frame}
  {aliases aliases' : Aliases AliasKey}

/-- The plan of a frame grows from the base by the requested aspects, the selected attributes with
those of the predicate, and the order. -/
theorem frame_eq_ok_iff : q.frame schema predicate aliases = .ok f ↔
    ∃ base strict p₀ p₁ p₂ p₃, addBase schema q.necessary { aliases } = .ok (base, p₀) ∧
      p₀.joinAspects schema .inner ⟨base, schema.naming.itemIdColumn⟩ [] q.necessary =
        .ok (strict, p₁) ∧
      p₁.joinAspects schema .leftOuter ⟨base, schema.naming.itemIdColumn⟩ strict q.optional =
        .ok (f.requested, p₂) ∧
      p₂.resolveAll schema .leftOuter ⟨base, schema.naming.itemIdColumn⟩
        (q.select ++ predicate.mentions) = .ok p₃ ∧
      resolveSort schema ⟨base, schema.naming.itemIdColumn⟩ q.sort p₃ = .ok (f.order, f.plan) ∧
      f.plan.tables.qualify ⟨base, schema.naming.itemIdColumn⟩ = .ok f.anchor ∧
      f.plan.statement f.anchor predicate = .ok f.statement := by
  simp only [frame, bind_eq_ok, pure_eq_ok, Prod.exists]
  constructor
  · rintro ⟨base, p₀, hbase, strict, p₁, hstrict, requested, p₂, hloose, p₃, hresolve, order, p₄,
      hsort, anchor, hanchor, t, hstatement, rfl⟩
    exact ⟨base, strict, p₀, p₁, p₂, p₃, hbase, hstrict, hloose, hresolve, hsort, hanchor,
      hstatement⟩
  · rintro ⟨base, strict, p₀, p₁, p₂, p₃, hbase, hstrict, hloose, hresolve, hsort, hanchor,
      hstatement⟩
    exact ⟨base, p₀, hbase, strict, p₁, hstrict, _, p₂, hloose, p₃, hresolve, _, _, hsort, _,
      hanchor, _, hstatement, rfl⟩

/-- The outputs of an item statement are the item, its aspects and its attributes. -/
theorem items_eq_ok_iff {dialect : Sql.Dialect} {s : ItemStatement} :
    q.items schema dialect predicate aliases = .ok (s, aliases') ↔
    ∃ f, q.frame schema predicate aliases = .ok f ∧
    ∃ presenceColumns presence p, outputPresence schema.naming.itemIdColumn f.requested
      (f.plan.allot .itemId AliasKey.columnStem).2 = .ok (presenceColumns, presence, p) ∧
    ∃ columns attributes p',
      JoinPlan.outputAttributes q.select [] p = .ok (columns, attributes, p') ∧
      ⟨⟨f.itemSelect dialect q (presenceColumns ++ columns), f.statement.params⟩,
        (f.plan.allot .itemId AliasKey.columnStem).1, presence, attributes⟩ = s ∧
      p'.aliases = aliases' := by
  simp only [items, bind_eq_ok, pure_eq_ok, Prod.exists, Prod.mk.injEq]
  rfl

theorem distinct_eq_ok_iff {s : DistinctStatement} :
    q.distinct schema predicate aliases = .ok (s, aliases') ↔
    ∃ f, q.frame schema predicate aliases = .ok f ∧
    ∃ columns attributes p,
      JoinPlan.outputAttributes q.select [] f.plan = .ok (columns, attributes, p) ∧
    ∃ orderBy, orderByAll p f.order q.select = .ok orderBy ∧
      ⟨⟨{ f.statement.select with distinct := true, outputs := columns, orderBy },
        f.statement.params⟩, attributes⟩ = s ∧ p.aliases = aliases' := by
  simp only [distinct, bind_eq_ok, pure_eq_ok, Prod.exists, Prod.mk.injEq]

/-- Items are counted by the attributes in different rows. -/
theorem grouped_eq_ok_iff {s : GroupedStatement} :
    q.grouped schema predicate aliases = .ok (s, aliases') ↔
    ∃ f, q.frame schema predicate aliases = .ok f ∧
    ∃ columns attributes p,
      JoinPlan.outputAttributes q.select [] (f.plan.allot .itemId AliasKey.columnStem).2 =
        .ok (columns, attributes, p) ∧
      ⟨⟨countBy (f.rows columns) (p.allot .derived AliasKey.tableStem).1
          (f.plan.allot .itemId AliasKey.columnStem).1
          ((p.allot .derived AliasKey.tableStem).2.allot .count AliasKey.columnStem).1
          (q.select.filterMap fun m => attributes.lookup m.index), f.statement.params⟩, attributes,
        ((p.allot .derived AliasKey.tableStem).2.allot .count AliasKey.columnStem).1⟩ = s ∧
      ((p.allot .derived AliasKey.tableStem).2.allot .count AliasKey.columnStem).2.aliases =
        aliases' := by
  simp only [grouped, bind_eq_ok, pure_eq_ok, Prod.exists, Prod.mk.injEq]
  rfl

end

section

variable {ops : Operators} {db : Contents} {schema : Schema} {ms : Mentions} {base : String}
  {anchor : ColumnRef} {kept : Record → Bool} {p : JoinPlan}

/-- The table at which the statement starts. -/
def baseTable (schema : Schema) (necessary : List AspectId) : String :=
  match necessary with
  | [] => schema.naming.itemTable
  | first :: _ => ((schema.aspect? first).map Aspect.table).getD ""

theorem fits_addBase (ops : Operators) (ms : Mentions) (hdb : db.Keyed ops schema)
    (hs : schema.Proper)
    {necessary : List AspectId} (hnecessary : ∀ a ∈ necessary, (schema.aspect? a).isSome)
    {aliases : Aliases AliasKey} (haliases : aliases.Sound) :
    ∃ n p, addBase schema necessary { aliases } = .ok (n, p) ∧
      p.Fits ops db schema ms (baseTable schema necessary) ⟨n, schema.naming.itemIdColumn⟩
        (fun _ => true) ∧
      p.Tight db schema (baseTable schema necessary) fun _ => true := by
  cases necessary with
  | nil =>
    have hbase : ∀ r ∈ db schema.naming.itemTable, records db schema r .items = r := fun _ _ => rfl
    obtain ⟨hfits, honly, -⟩ := JoinPlan.fits_addBase ops ms haliases hs.naming.itemTable
      (.inl rfl) hbase
    refine ⟨_, _, rfl, hfits, fun i hi a ha => ?_⟩
    simp [(honly i hi).2] at ha
  | cons first rest =>
    obtain ⟨a, ha⟩ := Option.isSome_iff_exists.mp (hnecessary first List.mem_cons_self)
    have hplain := (hs.aspects a (Schema.aspect?_eq_some ha).1).table
    have hbase : ∀ r ∈ db a.table, records db schema r (.aspect first) = r := by
      intro r hr
      rw [records, mainRow?_of_mem hdb ha hr]
      rfl
    obtain ⟨hfits, honly, -⟩ := JoinPlan.fits_addBase ops ms haliases hplain
      (.inr (.aspect (Schema.aspect?_eq_some ha).1)) hbase
    have htable : baseTable schema (first :: rest) = a.table := by simp [baseTable, ha]
    rw [htable]
    refine ⟨_, _, ?_, hfits, fun i hi b hb r hr _ => ?_⟩
    · simp only [addBase, Schema.require_eq_ok.mpr ha]
      rfl
    · obtain rfl := Purpose.aspect.inj ((honly i hi).2.symm.trans hb)
      rw [present, mainRow?_of_mem hdb ha hr]
      rfl

/-- The keys are the columns of the bounded mentions, and the rows stay the same. -/
theorem fits_resolveSort (h : p.Fits ops db schema ms base anchor kept) (hdb : db.Keyed ops schema)
    (hs : schema.Proper) {sort : List (Mention × Direction)}
    (hsort : ∀ e ∈ sort, e.1.target.bounded → e.1.Known schema ms) :
    ∃ keys q, resolveSort schema anchor sort p = .ok (keys, q) ∧
      q.Fits ops db schema ms base anchor kept ∧ p.Grows q ∧
      (∀ e ∈ sort, e.1.target.bounded → ∃ c, q.column? e.1 = some c) ∧
      keys = (sort.filter fun e => e.1.target.bounded).map fun e => ⟨q.cell e.1, some e.2⟩ := by
  induction sort generalizing p with
  | nil => exact ⟨[], p, rfl, h, .refl p, by simp, rfl⟩
  | cons e rest ih =>
    obtain ⟨m, direction⟩ := e
    have hrest : ∀ e ∈ rest, e.1.target.bounded → e.1.Known schema ms := fun e he =>
      hsort e (List.mem_cons_of_mem _ he)
    cases hbounded : m.target.bounded with
    | false =>
      obtain ⟨keys, q, hresolve, hfits, hgrows, hcolumns, hkeys⟩ := ih h hrest
      refine ⟨keys, q, by simpa [resolveSort, hbounded] using hresolve, hfits, hgrows, ?_, ?_⟩
      · intro e he hb
        rcases List.mem_cons.mp he with rfl | he
        · simp [hbounded] at hb
        · exact hcolumns e he hb
      · simpa [hbounded] using hkeys
    | true =>
      have hm := hsort (m, direction) List.mem_cons_self hbounded
      obtain ⟨c, p', hresolve, hfits', hgrows', hc⟩ := h.resolve hdb hs hm
      obtain ⟨keys, q, hresolve', hfits, hgrows, hcolumns, hkeys⟩ := ih hfits' hrest
      refine ⟨⟨p'.cell m, some direction⟩ :: keys, q, ?_, hfits, hgrows'.trans hgrows, ?_, ?_⟩
      · simp [resolveSort, hbounded, hresolve, (hfits'.cell_eq hm hc).1, hresolve']
      · intro e he hb
        rcases List.mem_cons.mp he with rfl | he
        · exact ⟨c, hgrows.columns _ _ hc⟩
        · exact hcolumns e he hb
      · simp [hbounded, hkeys, hfits'.cell_of_grows hfits hgrows hm hc]

end

/-- What a query asks for is known. -/
structure Known (schema : Schema) (ms : Mentions) (predicate : Predicate) (q : Primary) : Prop where
  necessary : ∀ a ∈ q.necessary, (schema.aspect? a).isSome
  optional : ∀ a ∈ q.optional, (schema.aspect? a).isSome
  select : ∀ m ∈ q.select, m.Known schema ms
  sort : ∀ e ∈ q.sort, e.1.target.bounded → e.1.Known schema ms
  predicate : predicate.Compiled schema ms

/-- A frame that keeps the items with all necessary aspects. -/
structure Frame.Fits (ops : Operators) (db : Contents) (schema : Schema) (ms : Mentions)
    (predicate : Predicate) (q : Primary) (f : Frame) : Prop where
  plan : ∃ anchor, f.plan.Fits ops db schema ms (baseTable schema q.necessary) anchor
    (fun r => q.necessary.all (present db schema r)) ∧ f.plan.tables.qualify anchor = .ok f.anchor
  requested : f.plan.Requested f.requested
  mem_requested : ∀ a, a ∈ f.requested.map Prod.fst ↔ a ∈ q.necessary ∨ a ∈ q.optional
  select : ∀ m ∈ q.select, ∃ c, f.plan.column? m = some c
  mentions : ∀ m ∈ predicate.mentions, ∃ c, f.plan.column? m = some c
  sort : ∀ e ∈ q.sort, e.1.target.bounded → ∃ c, f.plan.column? e.1 = some c
  order : f.order =
    (q.sort.filter fun e => e.1.target.bounded).map fun e => ⟨f.plan.cell e.1, some e.2⟩
  statement : f.plan.statement f.anchor predicate = .ok f.statement

theorem fits_frame {ops : Operators} {db : Contents} {schema : Schema} {ms : Mentions}
    {predicate : Predicate} {q : Primary} (h : q.Known schema ms predicate)
    (hdb : db.Keyed ops schema) (hs : schema.Proper) {aliases : Aliases AliasKey}
    (haliases : aliases.Sound) :
    ∃ f, q.frame schema predicate aliases = .ok f ∧ f.Fits ops db schema ms predicate q := by
  obtain ⟨n, p₀, hbase, hfits₀, htight⟩ := fits_addBase ops ms hdb hs h.necessary haliases
  obtain ⟨strict, p₁, hstrict, hfits₁, hgrows₁, hrequested₁, hmem₁⟩ :=
    hfits₀.joinAspects_strictly htight hdb hs h.necessary
  obtain ⟨requested, p₂, hloose, hfits₂, hgrows₂, hrequested₂, hmem₂⟩ :=
    hfits₁.joinAspects_loosely hdb hs h.optional hrequested₁
  have hmentions : ∀ m ∈ q.select ++ predicate.mentions, m.Known schema ms := by
    intro m hm
    rcases List.mem_append.mp hm with hm | hm
    · exact h.select m hm
    · exact h.predicate.known hm
  obtain ⟨p₃, hresolve, hfits₃, hgrows₃, hcolumns⟩ := hfits₂.resolveAll hdb hs hmentions
  obtain ⟨order, p₄, hsort, hfits₄, hgrows₄, hsorted, horder⟩ :=
    fits_resolveSort hfits₃ hdb hs h.sort
  have hcolumns₄ : ∀ m ∈ q.select ++ predicate.mentions, ∃ c, p₄.column? m = some c := by
    intro m hm
    obtain ⟨c, hc⟩ := hcolumns m hm
    exact ⟨c, hgrows₄.columns m c hc⟩
  obtain ⟨column, hqualify, -⟩ := hfits₄.qualify_anchor
  obtain ⟨s, hstatement, -⟩ := hfits₄.statement hs hqualify h.predicate fun m hm =>
    hcolumns₄ m (List.mem_append_right _ hm)
  refine ⟨⟨p₄, column, requested, order, s⟩, ?_, ⟨_, ?_, hqualify⟩, ?_, ?_, ?_, ?_, hsorted, horder,
    hstatement⟩
  · exact frame_eq_ok_iff.mpr ⟨n, strict, p₀, p₁, p₂, p₃, hbase, hstrict, hloose, hresolve, hsort,
      hqualify, hstatement⟩
  · simpa using hfits₄
  · exact fun e he => (hrequested₂ e he).mono (hgrows₃.trans hgrows₄)
  · simp only [hmem₂, hmem₁, implies_true]
  · exact fun m hm => hcolumns₄ m (List.mem_append_left _ hm)
  · exact fun m hm => hcolumns₄ m (List.mem_append_right _ hm)

end Primary

end AspectQuery
