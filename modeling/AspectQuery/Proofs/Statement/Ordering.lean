import AspectQuery.Proofs.Statement.Numbering
import AspectQuery.Proofs.Statement.Values
/-!
# The order of a primary statement

A statement over the items is ordered by the bounded attributes that it was asked to be sorted by.
Where a page needs some order and there is none, the ids of the items give one. The rows that are
counted by values have neither an order nor a page.
-/

set_option autoImplicit false

namespace AspectQuery

namespace Sql

/-- Whether a keyword belongs to an order or to a page. -/
def Keyword.arranges (k : Keyword) : Bool := k ∈ [.orderBy, .limit, .offset, .fetch]

section

variable {k : Keyword} {s : Select} {d : Dialect}

theorem keyword_mem_spacedList {items : List (List Token)}
    (h : .keyword k ∈ spacedList items) : ∃ ts ∈ items, .keyword k ∈ ts := by
  induction items with
  | nil => simp [spacedList] at h
  | cons item rest ih =>
    cases rest with
    | nil =>
      have hitem : .keyword k ∈ item := by simpa [spacedList] using h
      exact ⟨item, List.mem_cons_self, hitem⟩
    | cons item' rest =>
      have hmem : .keyword k ∈ item ∨ .keyword k ∈ spacedList (item' :: rest) := by
        simpa [spacedList] using h
      rcases hmem with hmem | hmem
      · exact ⟨item, List.mem_cons_self, hmem⟩
      · obtain ⟨ts, hts, hmem⟩ := ih hmem
        exact ⟨ts, List.mem_cons_of_mem item hts, hmem⟩

theorem keyword_mem_listClause {k' : Keyword} {items : List (List Token)}
    (h : .keyword k ∈ listClause k' items) :
    k = k' ∧ items ≠ [] ∨ ∃ ts ∈ items, .keyword k ∈ ts := by
  cases items with
  | nil => simp [listClause] at h
  | cons item rest =>
    have hmem : k = k' ∨ .keyword k ∈ spacedList (item :: rest) := by
      simpa [listClause] using h
    rcases hmem with rfl | hmem
    · exact .inl ⟨rfl, List.cons_ne_nil item rest⟩
    · exact .inr (keyword_mem_spacedList hmem)

theorem keyword_notMem_output (k : Keyword) (o : Output) : .keyword k ∉ o.tokens := by
  obtain ⟨_ | _, _ | _⟩ := o <;> simp [Output.tokens, Expression.tokens, Column.token]

namespace Select

theorem keyword_notMem_head (hk : k.arranges) : .keyword k ∉ s.headTokens := by
  intro h
  rw [headTokens, List.cons_append, List.mem_cons, List.mem_append] at h
  rcases h with h | h | h
  · cases h
    exact absurd hk (by decide)
  · split at h
    · have heq : k = .distinct := by simpa using h
      exact absurd (heq ▸ hk) (by decide)
    · simp at h
  · obtain ⟨ts, hts, h⟩ := keyword_mem_spacedList h
    obtain ⟨o, -, rfl⟩ := List.mem_map.mp hts
    exact keyword_notMem_output k o h

theorem keyword_notMem_joins (hk : k.arranges) : .keyword k ∉ s.joinTokens := by
  intro h
  obtain ⟨j, -, h⟩ := List.mem_flatMap.mp h
  have hkeyword : k = .inner ∨ k = .left ∨ k = .outer ∨ k = .join ∨ k = .on := by
    obtain ⟨kind, table, aliasName, left, right⟩ := j
    cases kind <;> simp [Join.tokens, JoinKind.tokens, Column.token] at h <;> tauto
  rcases hkeyword with rfl | rfl | rfl | rfl | rfl <;> exact absurd hk (by decide)

theorem keyword_notMem_condition (hk : k.arranges) : .keyword k ∉ s.conditionTokens := by
  intro h
  unfold conditionTokens at h
  split at h
  · simp at h
  · have heq : k = .where := by simpa using h
    exact absurd (heq ▸ hk) (by decide)

theorem keyword_mem_tail (hk : k.arranges) (h : .keyword k ∈ s.tailTokens) :
    k = .orderBy ∧ s.orderBy ≠ [] := by
  rcases List.mem_append.mp h with h | h
  · rcases keyword_mem_listClause h with ⟨rfl, -⟩ | ⟨ts, hts, h⟩
    · exact absurd hk (by decide)
    · obtain ⟨c, -, rfl⟩ := List.mem_map.mp hts
      simp [Column.token] at h
  · rcases keyword_mem_listClause h with ⟨rfl, hne⟩ | ⟨ts, hts, h⟩
    · exact ⟨rfl, fun hnil => hne (by rw [hnil, List.map_nil])⟩
    · obtain ⟨key, -, rfl⟩ := List.mem_map.mp hts
      have hkeyword : k = .asc ∨ k = .desc := by
        obtain ⟨column, _ | _ | _⟩ := key <;> simp [OrderKey.tokens, Column.token] at h <;> tauto
      rcases hkeyword with rfl | rfl <;> exact absurd hk (by decide)

/-- An order is in its clause or in that of the source. -/
theorem keyword_mem_unpaged (hk : k.arranges) (h : .keyword k ∈ s.unpaged.tokens d) :
    .keyword k ∈ sourceTokens d s.source ∨ k = .orderBy ∧ s.orderBy ≠ [] := by
  rw [tokens_unpaged] at h
  simp only [List.mem_append] at h
  rcases h with (((h | h) | h) | h) | h
  · exact absurd h (keyword_notMem_head hk)
  · exact .inl h
  · exact absurd h (keyword_notMem_joins hk)
  · exact absurd h (keyword_notMem_condition hk)
  · exact .inr (keyword_mem_tail hk h)

/-- A statement with neither an order nor a page. -/
structure Unarranged (s : Select) : Prop where
  orderBy : s.orderBy = []
  limit : s.limit = none
  offset : s.offset = none

theorem tokens_of_unpaged (hlimit : s.limit = none) (hoffset : s.offset = none) (d : Dialect) :
    s.tokens d = s.unpaged.tokens d := by
  rw [unpaged_eq hlimit hoffset]

theorem keyword_notMem_table (hk : k.arranges) (name aliasName : String) :
    .keyword k ∉ sourceTokens d (some (.table name aliasName)) := by
  intro h
  have heq : k = .from := by simpa [sourceTokens] using h
  exact absurd (heq ▸ hk) (by decide)

theorem keyword_notMem_derived (hk : k.arranges) {query : Select}
    (hquery : .keyword k ∉ query.tokens d) (aliasName : String) :
    .keyword k ∉ sourceTokens d (some (.derived query aliasName)) := by
  intro h
  have heq : k = .from := by simpa [sourceTokens, hquery] using h
  exact absurd (heq ▸ hk) (by decide)

theorem Unarranged.keyword_notMem (h : s.Unarranged) (hk : k.arranges)
    (hsource : .keyword k ∉ sourceTokens d s.source) : .keyword k ∉ s.tokens d := by
  rw [tokens_of_unpaged h.limit h.offset]
  intro hmem
  rcases keyword_mem_unpaged hk hmem with hmem | ⟨-, hne⟩
  · exact hsource hmem
  · exact hne h.orderBy

/-- Each offset stands directly behind an order. -/
def OffsetsOrdered (d : Dialect) (s : Select) : Prop :=
  ∀ before behind, s.tokens d = before ++ .keyword .offset :: behind →
    ∃ front, ∃ keys : List OrderKey, keys ≠ [] ∧
      before = front ++ listClause .orderBy (keys.map OrderKey.tokens) ++ [.space]

theorem page_tsql {limit offset : Option UInt64} (h : limit.isSome ∨ offset.isSome) : ∃ rest,
    spaced (Dialect.tsql.page limit offset) = .space :: .keyword .offset :: rest ∧
      .keyword .offset ∉ rest := by
  cases limit <;> cases offset <;>
    first
      | exact absurd h (by decide)
      | exact ⟨_, rfl, by simp [Dialect.rowCount]⟩

theorem offset_notMem_unpaged (hsource : .keyword .offset ∉ sourceTokens d s.source) :
    .keyword .offset ∉ s.unpaged.tokens d := by
  intro hmem
  rcases keyword_mem_unpaged rfl hmem with hmem | ⟨heq, -⟩
  · exact hsource hmem
  · exact absurd heq (by decide)

/-- Without a page there is no offset. -/
theorem offsetsOrdered_of_unpaged (hlimit : s.limit = none) (hoffset : s.offset = none)
    (hsource : .keyword .offset ∉ sourceTokens d s.source) : s.OffsetsOrdered d := by
  intro before behind heq
  have hmem : .keyword .offset ∈ s.tokens d := heq ▸ List.mem_append_right before List.mem_cons_self
  rw [tokens_of_unpaged hlimit hoffset] at hmem
  exact absurd hmem (offset_notMem_unpaged hsource)

theorem offsetsOrdered (hsource : .keyword .offset ∉ sourceTokens .tsql s.source)
    (hpage : s.limit.isSome ∨ s.offset.isSome → s.orderBy ≠ []) : s.OffsetsOrdered .tsql := by
  by_cases h : s.limit.isSome ∨ s.offset.isSome
  · obtain ⟨rest, hrest, hnot⟩ := page_tsql h
    intro before behind heq
    rw [tokens_eq_page, hrest, List.append_cons] at heq
    have hnot' : .keyword .offset ∉ s.unpaged.tokens .tsql ++ [.space] := by
      simpa using offset_notMem_unpaged hsource
    obtain ⟨hbefore, -, -⟩ := (List.append_cons_inj_of_notMem hnot' hnot).mp heq
    obtain ⟨front, hfront⟩ : ∃ front, s.unpaged.tokens .tsql =
        front ++ listClause .orderBy (s.orderBy.map OrderKey.tokens) :=
      ⟨_, by rw [tokens_unpaged, tailTokens, ← List.append_assoc]⟩
    exact ⟨front, s.orderBy, hpage h, by rw [← hbefore, hfront]⟩
  · obtain ⟨hlimit, hoffset⟩ : s.limit = none ∧ s.offset = none := by simpa using h
    exact offsetsOrdered_of_unpaged hlimit hoffset hsource

end Select

end

end Sql

namespace JoinPlan

theorem unarranged_statement {p : JoinPlan} {anchor : Sql.Column} {predicate : Predicate}
    {t : Statement} (h : p.statement anchor predicate = .ok t) :
    t.select.Unarranged ∧ p.tables.joins = .ok t.select.joins ∧
      ∀ (k : Sql.Keyword) (d : Sql.Dialect), k.arranges →
        .keyword k ∉ Sql.Select.sourceTokens d t.select.source := by
  obtain ⟨b, -, h⟩ := bind_eq_ok.mp h
  obtain ⟨js, hjs, h⟩ := bind_eq_ok.mp h
  obtain rfl := pure_eq_ok.mp h
  refine ⟨⟨rfl, rfl, rfl⟩, hjs, fun k d hk => ?_⟩
  simp only [Tables.source]
  cases p.tables.instances.head? with
  | none => exact List.not_mem_nil
  | some i => exact Sql.Select.keyword_notMem_table hk i.name i.aliasName

end JoinPlan

namespace Primary

/-- How a statement over the items is ordered. -/
structure Ordered (schema : Schema) (dialect : Sql.Dialect) (q : Primary) (f : Frame)
    (s : Sql.Select) : Prop where
  /-- One key for each bounded entry, with its column and its direction, in their order; or the ids
  where a page needs an order and there is no such entry. -/
  orderBy : ∃ keys, List.Forall₂ (fun e k => f.plan.Finds e.1 k.column ∧ k.direction = some e.2)
      (q.sort.filter fun e => e.1.target.bounded) keys ∧
    s.orderBy = if keys = [] ∧ (q.limit.isSome ∨ q.offset.isSome) ∧ dialect.pageNeedsOrder then
      [⟨f.anchor, none⟩] else keys
  anchor : ∃ base rest, f.plan.tables.instances = base :: rest ∧
    f.anchor = ⟨base.aliasName, schema.naming.itemIdColumn⟩
  joins : f.plan.tables.joins = .ok s.joins
  limit : s.limit = q.limit
  offset : s.offset = q.offset

section

variable {schema : Schema} {dialect : Sql.Dialect} {predicate : Predicate} {q : Primary}
  {aliases aliases' : Aliases AliasKey}

theorem resolveSort_filter (anchor : ColumnRef) (sort : List (Mention × Direction)) (p : JoinPlan) :
    resolveSort schema anchor (sort.filter fun e => e.1.target.bounded) p =
      resolveSort schema anchor sort p := by
  induction sort generalizing p with
  | nil => rfl
  | cons e rest ih =>
    obtain ⟨m, direction⟩ := e
    by_cases hbounded : m.target.bounded
    · simp only [List.filter_cons, hbounded, if_true, resolveSort, ih]
    · simp only [List.filter_cons, hbounded, resolveSort, Bool.false_eq_true, if_false]
      exact ih p

/-- The statement with the bounded entries only. -/
def onlyBounded (q : Primary) : Primary :=
  { q with sort := q.sort.filter fun e => e.1.target.bounded }

theorem frame_onlyBounded (schema : Schema) (predicate : Predicate) (q : Primary)
    (aliases : Aliases AliasKey) :
    q.onlyBounded.frame schema predicate aliases = q.frame schema predicate aliases := by
  simp only [frame, onlyBounded, resolveSort_filter]

theorem itemOrder_eq (dialect : Sql.Dialect) (q : Primary) (anchor : Sql.Column)
    (order : List Sql.OrderKey) : itemOrder dialect q anchor order =
      if order = [] ∧ (q.limit.isSome ∨ q.offset.isSome) ∧ dialect.pageNeedsOrder then
        [⟨anchor, none⟩] else order := by
  simp only [itemOrder, Bool.and_eq_true, Bool.or_eq_true, List.isEmpty_iff, and_assoc]

theorem Ordered.offsetsOrdered {f : Frame} {s : Sql.Select} (h : q.Ordered schema .tsql f s)
    (hsource : .keyword .offset ∉ Sql.Select.sourceTokens .tsql s.source) :
    s.OffsetsOrdered .tsql := by
  refine Sql.Select.offsetsOrdered hsource fun hpage => ?_
  rw [h.limit, h.offset] at hpage
  obtain ⟨keys, -, horder⟩ := h.orderBy
  rw [horder]
  split
  · exact List.cons_ne_nil _ _
  · rename_i hnot
    exact fun hnil => hnot ⟨hnil, hpage, rfl⟩

/-- The anchor is the column of item ids in the first table. -/
theorem anchor_of_grown {purpose : Purpose} {name : String} {base : Nat} {p r : JoinPlan}
    {c : Sql.Column} (haliases : aliases.Sound)
    (h : ({ aliases } : JoinPlan).addBase purpose name = (base, p)) (hgrown : p.Grown r)
    {column : String} (hqualify : r.tables.qualify ⟨base, column⟩ = .ok c) :
    ∃ i rest, r.tables.instances = i :: rest ∧ c = ⟨i.aliasName, column⟩ := by
  have hsound := hgrown.sound (h ▸ JoinPlan.sound_addBase haliases purpose name).1
  rw [JoinPlan.addBase_eq haliases] at h
  obtain ⟨rfl, rfl⟩ := Prod.mk.inj h
  obtain ⟨rest, hrest⟩ := hgrown.grows.tables.instances
  refine ⟨_, rest, hrest.symm, ?_⟩
  have hmem : _ ∈ r.tables.instances := hrest ▸ List.mem_append_left rest List.mem_cons_self
  exact Except.ok.inj (hqualify.symm.trans (Tables.qualify_of_mem hsound hmem column))

theorem extends_of_items {s : ItemStatement}
    (h : q.items schema dialect predicate aliases = .ok (s, aliases')) :
    ∃ f, q.frame schema predicate aliases = .ok f ∧ s.toStatement.Extends f.statement ∧
      s.select.orderBy = itemOrder dialect q f.anchor f.order ∧
      s.select.limit = q.limit ∧ s.select.offset = q.offset := by
  obtain ⟨f, hframe, _, _, _, -, _, _, _, -, rfl, -⟩ := items_eq_ok_iff.mp h
  exact ⟨f, hframe, ⟨rfl, rfl, rfl, rfl⟩, rfl, rfl, rfl⟩

theorem items_ordered (haliases : aliases.Sound) {s : ItemStatement}
    (h : q.items schema dialect predicate aliases = .ok (s, aliases')) :
    ∃ f, q.frame schema predicate aliases = .ok f ∧ q.Ordered schema dialect f s.select ∧
      (dialect = .tsql → s.select.OffsetsOrdered dialect) := by
  obtain ⟨f, hframe, hextends, horderBy, hlimit, hoffset⟩ := extends_of_items h
  obtain ⟨purpose, name, base, p, hbase, hgrown, hanchor, horder, hstatement⟩ :=
    grown_frame haliases hframe
  obtain ⟨-, hjoins, hsource⟩ := JoinPlan.unarranged_statement hstatement
  have hordered : q.Ordered schema dialect f s.select :=
    ⟨⟨f.order, horder, by rw [horderBy, itemOrder_eq]⟩,
      anchor_of_grown haliases hbase hgrown hanchor, hextends.joins ▸ hjoins, hlimit, hoffset⟩
  refine ⟨f, hframe, hordered, ?_⟩
  rintro rfl
  exact hordered.offsetsOrdered (hextends.source ▸ hsource .offset .tsql rfl)

theorem distinct_offsetsOrdered (haliases : aliases.Sound) {s : DistinctStatement}
    (h : q.distinct schema predicate aliases = .ok (s, aliases')) :
    s.select.OffsetsOrdered dialect := by
  obtain ⟨f, hframe, _, _, _, -, _, -, rfl, -⟩ := distinct_eq_ok_iff.mp h
  obtain ⟨_, _, _, _, -, -, -, -, hstatement⟩ := grown_frame haliases hframe
  obtain ⟨hunarranged, -, hsource⟩ := JoinPlan.unarranged_statement hstatement
  exact Sql.Select.offsetsOrdered_of_unpaged hunarranged.limit hunarranged.offset
    (hsource .offset dialect rfl)

/-- Items are counted by the values of rows without an order or a page. -/
theorem grouped_unarranged (haliases : aliases.Sound) {s : GroupedStatement}
    (h : q.grouped schema predicate aliases = .ok (s, aliases')) :
    (∃ rows name, s.select.source = some (.derived rows name) ∧ rows.Unarranged ∧
      ∀ k : Sql.Keyword, k.arranges → .keyword k ∉ rows.tokens dialect) ∧
    s.select.OffsetsOrdered dialect := by
  obtain ⟨f, hframe, columns, _, _, -, rfl, -⟩ := grouped_eq_ok_iff.mp h
  obtain ⟨_, _, _, _, -, -, -, -, hstatement⟩ := grown_frame haliases hframe
  obtain ⟨hunarranged, -, hsource⟩ := JoinPlan.unarranged_statement hstatement
  have hrows : (f.rows columns).Unarranged :=
    ⟨hunarranged.orderBy, hunarranged.limit, hunarranged.offset⟩
  have hnot : ∀ k : Sql.Keyword, k.arranges → .keyword k ∉ (f.rows columns).tokens dialect :=
    fun k hk => hrows.keyword_notMem hk (hsource k dialect hk)
  exact ⟨⟨f.rows columns, _, rfl, hrows, hnot⟩, Sql.Select.offsetsOrdered_of_unpaged rfl rfl
    (Sql.Select.keyword_notMem_derived rfl (hnot .offset rfl) _)⟩

/-- The orders of all statements of a query in a dialect. -/
structure Orders (schema : Schema) (dialect : Sql.Dialect) (predicate : Predicate) (q : Primary)
    (aliases : Aliases AliasKey) : Prop where
  /-- To be sorted by a collection changes nothing. -/
  bounded : q.onlyBounded.items schema dialect predicate aliases =
    q.items schema dialect predicate aliases
  items : ∀ s aliases', q.items schema dialect predicate aliases = .ok (s, aliases') →
    ∃ f, q.frame schema predicate aliases = .ok f ∧ q.Ordered schema dialect f s.select ∧
      (dialect = .tsql → s.select.OffsetsOrdered dialect)
  distinct : ∀ s aliases', q.distinct schema predicate aliases = .ok (s, aliases') →
    s.select.OffsetsOrdered dialect
  grouped : ∀ s aliases', q.grouped schema predicate aliases = .ok (s, aliases') →
    (∃ rows name, s.select.source = some (.derived rows name) ∧ rows.Unarranged ∧
      ∀ k : Sql.Keyword, k.arranges → .keyword k ∉ rows.tokens dialect) ∧
    s.select.OffsetsOrdered dialect

theorem orders (schema : Schema) (dialect : Sql.Dialect) (predicate : Predicate) (q : Primary)
    (haliases : aliases.Sound) : q.Orders schema dialect predicate aliases := by
  refine ⟨?_, fun s aliases' h => items_ordered haliases h,
    fun s aliases' h => distinct_offsetsOrdered haliases h,
    fun s aliases' h => grouped_unarranged haliases h⟩
  simp only [Primary.items, frame_onlyBounded]
  rfl

theorem items_total {ms : Mentions} (h : q.Known schema ms predicate) (hs : schema.Proper)
    (haliases : aliases.Sound) (dialect : Sql.Dialect) :
    ∃ r, q.items schema dialect predicate aliases = .ok r := by
  obtain ⟨ops, db, hdb⟩ := exists_keyed schema
  obtain ⟨f, hframe, hf⟩ := fits_frame h hdb hs haliases
  obtain ⟨s, aliases', hitems, -⟩ := hf.items_eq_ok hdb h.select hframe dialect
  exact ⟨_, hitems⟩

end

/-- Whatever a query asks for, its statements are ordered as they should be, and where all that it
asks for is known they can be written. -/
theorem ordered_as_asked {d : SchemaDefinition} {naming : Naming} {schema : Schema}
    (hschema : Schema.ofDefinition d naming = .ok schema) {options : Options}
    {filter : Option Filter} {ms₀ ms₁ ms : Mentions} {predicate : Predicate}
    (hfilter : Predicate.ofFilter? schema options filter ms₀ = .ok (predicate, ms₁))
    (hms : ms₁.Extends ms) (q : Primary) (dialect : Sql.Dialect) {aliases : Aliases AliasKey}
    (haliases : aliases.Sound) :
    q.Orders schema dialect predicate aliases ∧
      ((∀ a ∈ q.necessary, (schema.aspect? a).isSome) →
        (∀ a ∈ q.optional, (schema.aspect? a).isSome) →
        (∀ m ∈ q.select, m.Known schema ms) →
        (∀ e ∈ q.sort, e.1.target.bounded → e.1.Known schema ms) →
        (∃ r, q.items schema dialect predicate aliases = .ok r) ∧
          (∃ r, q.distinct schema predicate aliases = .ok r) ∧
          ∃ r, q.grouped schema predicate aliases = .ok r) := by
  refine ⟨orders schema dialect predicate q haliases, fun hnecessary hoptional hselect hsort => ?_⟩
  have hproper := Schema.proper_of_ofDefinition hschema
  have hcompiled := (Predicate.compiled_ofFilter? hproper hfilter).1.mono hms
  have hknown : q.Known schema ms predicate := ⟨hnecessary, hoptional, hselect, hsort, hcompiled⟩
  obtain ⟨s, aliases', hdistinct, -⟩ := distinct_total hknown hproper haliases
  obtain ⟨t, aliases'', hgrouped, -⟩ := grouped_total hknown hproper haliases
  exact ⟨items_total hknown hproper haliases dialect, ⟨_, hdistinct⟩, _, hgrouped⟩

open Predicate (films filmSchema filmFilter) in
theorem ordered_as_asked_films :
    let title : Mention := ⟨0, ⟨"film", "title", .string, .inline "TITLE"⟩⟩
    let genre : Mention :=
      ⟨7, ⟨"film", "genre", .string, .manyToMany "NM_FILM_GENRE" "V_FILM_GENRE"⟩⟩
    let q : Primary :=
      { necessary := ["film"], select := [title], sort := [(genre, .ascending)], limit := some 3 }
    Schema.ofDefinition films {} = .ok filmSchema ∧
      ∃ p ms, Predicate.ofFilter? filmSchema {} (some filmFilter) {} = .ok (p, ms) ∧
        q.Orders filmSchema .tsql p {} ∧ (∃ r, q.items filmSchema .tsql p {} = .ok r) ∧
          (∃ r, q.distinct filmSchema p {} = .ok r) ∧ ∃ r, q.grouped filmSchema p {} = .ok r := by
  intro title genre q
  have hschema : Schema.ofDefinition films {} = .ok filmSchema := rfl
  obtain ⟨⟨p, ms⟩, hp, htitle⟩ : ∃ r,
      Predicate.ofFilter? filmSchema {} (some filmFilter) {} = .ok r ∧ r.2.get? 0 = some title :=
    ⟨_, rfl, rfl⟩
  have hknown : title.Known filmSchema ms := ⟨htitle, rfl, rfl⟩
  have hfilm : ∀ a ∈ ["film"], (filmSchema.aspect? a).isSome := by decide
  obtain ⟨horders, htotal⟩ :=
    ordered_as_asked hschema hp (.refl ms) q .tsql Aliases.sound_empty
  refine ⟨hschema, p, ms, hp, horders, htotal hfilm ?_ ?_ ?_⟩
  · simp [q]
  · simpa [q] using hknown
  · simp [q, genre, Attribute.bounded, Attribute.cardinality, Storage.cardinality,
      Cardinality.bounded]

end Primary

end AspectQuery
