import AspectQuery.Proofs.Statement.Collection
import AspectQuery.Proofs.Statement.Items
import AspectQuery.Proofs.Statement.Shape
/-!
# The names of statements

Whatever a statement selects, groups or orders by is a column of one of its tables, under an alias
that its namespace gave out. So there are question marks in its condition alone.
-/

set_option autoImplicit false

namespace AspectQuery

open Sql (Column Contents Operators isIdentifier)

/-- What does not depend on the stored values can be shown for some. -/
theorem exists_keyed (schema : Schema) : ∃ (ops : Operators) (db : Contents), db.Keyed ops schema :=
  ⟨.equality, fun _ => [fun _ => .integer 1], keyed_singleton schema (by decide)⟩

namespace JoinPlan

section

variable {p q : JoinPlan}

theorem isAlias_allot (h : p.aliases.Sound) (key : AliasKey) {stem : String}
    (hstem : stem = AliasKey.tableStem ∨ stem = AliasKey.columnStem)
    (hkey : ∀ id, key ≠ .table id) :
    IsAlias (p.allot key stem).1 ∧ (p.allot key stem).2.aliases.Sound :=
  ⟨Aliases.isAlias_allot h hstem, Aliases.sound_allot h hstem fun id hid => absurd hid (hkey id)⟩

/-- Attributes are selected under aliases of their own, and the tables stay the same. -/
theorem plain_outputAttributes {select : List Mention} {outputs attributes : List (Nat × String)}
    {columns : List Sql.Output} (haliases : p.aliases.Sound)
    (hplain : ∀ m ∈ select, ∀ c, p.Finds m c → c.Plain) (houtputs : ∀ e ∈ outputs, IsAlias e.2)
    (h : outputAttributes select outputs p = .ok (columns, attributes, q)) :
    (∀ o ∈ columns, o.Plain) ∧ (∀ e ∈ attributes, IsAlias e.2) ∧ q.aliases.Sound ∧
      q.tables = p.tables ∧ q.columns = p.columns := by
  induction select generalizing outputs columns p with
  | nil =>
    obtain ⟨rfl, rfl, rfl⟩ : [] = columns ∧ outputs = attributes ∧ p = q := by
      simpa [outputAttributes] using h
    exact ⟨by simp, houtputs, haliases, rfl, rfl⟩
  | cons m rest ih =>
    have hrest : ∀ m ∈ rest, ∀ c, p.Finds m c → c.Plain := fun m hm =>
      hplain m (List.mem_cons_of_mem _ hm)
    unfold outputAttributes at h
    split at h
    · exact ih haliases hrest houtputs h
    · cases hc : p.column? m with
      | none =>
        rw [hc] at h
        exact ih haliases hrest houtputs h
      | some c =>
        rw [hc] at h
        obtain ⟨column, hcolumn, h⟩ := bind_eq_ok.mp h
        obtain ⟨⟨columns', attributes', q'⟩, hrec, h⟩ := bind_eq_ok.mp h
        obtain ⟨rfl, rfl, rfl⟩ := by simpa using h
        obtain ⟨halias, haliases'⟩ := isAlias_allot haliases (.mention m.index) (.inr rfl)
          (by simp)
        have houtputs' : ∀ e ∈ outputs ++ [(m.index, (p.allot (.mention m.index)
            AliasKey.columnStem).1)], IsAlias e.2 := by
          intro e he
          rcases List.mem_append.mp he with he | he
          · exact houtputs e he
          · rw [List.mem_singleton.mp he]
            exact halias
        obtain ⟨hcolumns, hattributes, hsound, htables, hcols⟩ := ih haliases' hrest houtputs' hrec
        refine ⟨List.forall_mem_cons.mpr ⟨?_, hcolumns⟩, hattributes, hsound, htables, hcols⟩
        exact plain_outputColumn (hplain m List.mem_cons_self column ⟨c, hc, hcolumn⟩) halias

variable {ops : Operators} {db : Contents} {schema : Schema} {ms : Mentions} {base : String}
  {anchor : ColumnRef} {kept : Sql.Record → Bool}

theorem Fits.plain_of_finds (h : p.Fits ops db schema ms base anchor kept) {m : Mention}
    (hm : m.Known schema ms) {c : Column} (hc : p.Finds m c) : c.Plain := by
  obtain ⟨d, hd, hqualify⟩ := hc
  obtain rfl := Except.ok.inj (hqualify.symm.trans (h.cell_eq hm hd).1)
  exact p.isIdentifier_cell m

end

end JoinPlan

namespace Primary

theorem plain_outputPresence {column : String} {requested : List (AspectId × Nat)}
    {p q : JoinPlan} {columns : List Sql.Output} {presence : List (AspectId × String)}
    (haliases : p.aliases.Sound)
    (hplain : ∀ n c, p.tables.qualify ⟨n, column⟩ = .ok c → c.Plain)
    (h : outputPresence column requested p = .ok (columns, presence, q)) :
    (∀ o ∈ columns, o.Plain) ∧ q.aliases.Sound ∧ q.tables = p.tables ∧ q.columns = p.columns := by
  induction requested generalizing columns presence p with
  | nil =>
    obtain ⟨rfl, -, rfl⟩ : [] = columns ∧ [] = presence ∧ p = q := by
      simpa [outputPresence] using h
    exact ⟨by simp, haliases, rfl, rfl⟩
  | cons e rest ih =>
    obtain ⟨a, n⟩ := e
    obtain ⟨c, hc, h⟩ := bind_eq_ok.mp h
    obtain ⟨⟨columns', presence', q'⟩, hrec, h⟩ := bind_eq_ok.mp h
    obtain ⟨rfl, -, rfl⟩ := by simpa using h
    obtain ⟨halias, haliases'⟩ := JoinPlan.isAlias_allot haliases (.presence n) (.inr rfl)
      (by simp)
    obtain ⟨hcolumns, hsound, htables, hcols⟩ := ih haliases' hplain hrec
    refine ⟨List.forall_mem_cons.mpr ⟨?_, hcolumns⟩, hsound, htables, hcols⟩
    exact plain_outputColumn (hplain n c hc) halias

theorem plain_orderByAll {p : JoinPlan} {order keys : List Sql.OrderKey} {select : List Mention}
    (horder : ∀ k ∈ order, k.column.Plain) (hplain : ∀ m ∈ select, ∀ c, p.Finds m c → c.Plain)
    (h : orderByAll p order select = .ok keys) : ∀ k ∈ keys, k.column.Plain := by
  refine foldlM_induct (fun keys : List Sql.OrderKey => ∀ k ∈ keys, k.column.Plain)
    (fun keys m keys' hm hkeys h => ?_) h horder
  cases hc : p.column? m with
  | none =>
    rw [hc] at h
    exact pure_eq_ok.mp h ▸ hkeys
  | some c =>
    rw [hc] at h
    obtain ⟨column, hcolumn, h⟩ := bind_eq_ok.mp h
    obtain rfl := pure_eq_ok.mp h
    split
    · exact hkeys
    · intro k hk
      rcases List.mem_append.mp hk with hk | hk
      · exact hkeys k hk
      · rw [List.mem_singleton.mp hk]
        exact hplain m hm column ⟨c, hc, hcolumn⟩

/-- What is known of the names in a frame. -/
structure Frame.Named (predicate : Predicate) (q : Primary) (f : Frame) : Prop where
  sound : f.plan.aliases.Sound
  built : f.plan.Built f.anchor predicate f.statement
  anchor : f.anchor.Plain
  qualify : ∀ c column, f.plan.tables.qualify c = .ok column → isIdentifier c.column → column.Plain
  select : ∀ m ∈ q.select, ∀ c, f.plan.Finds m c → c.Plain
  order : ∀ k ∈ f.order, k.column.Plain

section

variable {schema : Schema} {ms : Mentions} {predicate : Predicate} {q : Primary}
  {aliases aliases' : Aliases AliasKey}

theorem named_of_frame (h : q.Known schema ms predicate) (hs : schema.Proper)
    (haliases : aliases.Sound) {f : Frame} (hframe : q.frame schema predicate aliases = .ok f) :
    f.Named predicate q := by
  obtain ⟨ops, db, hdb⟩ := exists_keyed schema
  obtain ⟨g, hg, hf⟩ := fits_frame h hdb hs haliases
  obtain rfl := Except.ok.inj (hframe.symm.trans hg)
  obtain ⟨anchor, hfits, hanchor⟩ := hf.plan
  refine ⟨hfits.sound.aliases, hfits.built h.predicate hf.mentions hf.statement,
    hfits.plain_anchor hs hanchor, fun c column => hfits.plain_qualify,
    fun m hm c => hfits.plain_of_finds (h.select m hm), fun k hk => ?_⟩
  rw [hf.order] at hk
  obtain ⟨e, -, rfl⟩ := List.mem_map.mp hk
  exact f.plan.isIdentifier_cell e.1

theorem Frame.Named.plain_itemOrder {f : Frame} (hf : f.Named predicate q) (dialect : Sql.Dialect) :
    ∀ k ∈ itemOrder dialect q f.anchor f.order, k.column.Plain := by
  intro k hk
  unfold itemOrder at hk
  split at hk
  · rw [List.mem_singleton.mp hk]
    exact hf.anchor
  · exact hf.order k hk

theorem linesUp_items (h : q.Known schema ms predicate) (hs : schema.Proper)
    (haliases : aliases.Sound) {dialect : Sql.Dialect} {s : ItemStatement}
    (hitems : q.items schema dialect predicate aliases = .ok (s, aliases')) (d : Sql.Dialect) :
    LinesUp predicate (s.bound d)
      (Sql.Token.render (Sql.spaced (d.page q.limit q.offset))) := by
  obtain ⟨f, hframe, presenceColumns, presence, p₁, hpresence, columns, attributes, p₂,
    hattributes, rfl, -⟩ := items_eq_ok_iff.mp hitems
  have hf := named_of_frame h hs haliases hframe
  obtain ⟨hitem, hsound⟩ := JoinPlan.isAlias_allot hf.sound .itemId (.inr rfl) (by simp)
  obtain ⟨hplain₁, hsound₁, htables, hcolumns⟩ := plain_outputPresence hsound
    (fun n c hc => hf.qualify _ c hc hs.naming.itemIdColumn) hpresence
  have hfinds : ∀ m ∈ q.select, ∀ c, p₁.Finds m c → c.Plain := by
    intro m hm c hc
    rw [JoinPlan.Finds, JoinPlan.column?, htables, hcolumns] at hc
    exact hf.select m hm c hc
  obtain ⟨hplain₂, -⟩ := JoinPlan.plain_outputAttributes hsound₁ hfinds (by simp) hattributes
  have houtputs := List.forall_mem_cons.mpr ⟨plain_outputColumn hf.anchor hitem,
    List.forall_mem_append.mpr ⟨hplain₁, hplain₂⟩⟩
  have hplain : (f.itemSelect dialect q (presenceColumns ++ columns)).Plain :=
    ⟨houtputs, hf.built.joins, by simp [Frame.itemSelect, hf.built.groupBy],
      hf.plain_itemOrder dialect⟩
  exact hf.built.linesUp hf.anchor h.predicate hplain rfl rfl d

theorem linesUp_distinct (h : q.Known schema ms predicate) (hs : schema.Proper)
    (haliases : aliases.Sound) {s : DistinctStatement}
    (hdistinct : q.distinct schema predicate aliases = .ok (s, aliases')) (d : Sql.Dialect) :
    LinesUp predicate (s.bound d) "" := by
  obtain ⟨f, hframe, columns, attributes, p, hattributes, keys, hkeys, rfl, -⟩ :=
    distinct_eq_ok_iff.mp hdistinct
  have hf := named_of_frame h hs haliases hframe
  obtain ⟨hplain, -, -, htables, hcolumns⟩ :=
    JoinPlan.plain_outputAttributes hf.sound hf.select (by simp) hattributes
  have hfinds : ∀ m ∈ q.select, ∀ c, p.Finds m c → c.Plain := by
    intro m hm c hc
    rw [JoinPlan.Finds, JoinPlan.column?, htables, hcolumns] at hc
    exact hf.select m hm c hc
  have horder := plain_orderByAll hf.order hfinds hkeys
  have hlines := hf.built.linesUp hf.anchor h.predicate
    (s := { f.statement.select with distinct := true, outputs := columns, orderBy := keys })
    ⟨hplain, hf.built.joins, by simp [hf.built.groupBy], horder⟩ rfl rfl d
  rwa [hf.built.page_eq d] at hlines

theorem linesUp_grouped (h : q.Known schema ms predicate) (hs : schema.Proper)
    (haliases : aliases.Sound) {s : GroupedStatement}
    (hgrouped : q.grouped schema predicate aliases = .ok (s, aliases')) (d : Sql.Dialect) :
    LinesUp predicate (s.bound d) "" := by
  obtain ⟨f, hframe, columns, attributes, p, hattributes, rfl, -⟩ := grouped_eq_ok_iff.mp hgrouped
  have hf := named_of_frame h hs haliases hframe
  obtain ⟨hitem, hsound⟩ := JoinPlan.isAlias_allot hf.sound .itemId (.inr rfl) (by simp)
  obtain ⟨hplain, haliased, hsound₁, -, -⟩ :=
    JoinPlan.plain_outputAttributes hsound hf.select (by simp) hattributes
  obtain ⟨hderived, hsound₂⟩ := JoinPlan.isAlias_allot hsound₁ .derived (.inl rfl) (by simp)
  obtain ⟨hcount, -⟩ := JoinPlan.isAlias_allot hsound₂ .count (.inr rfl) (by simp)
  have hnames : ∀ n ∈ q.select.filterMap (fun m => attributes.lookup m.index), IsAlias n := by
    intro n hn
    obtain ⟨m, -, hm⟩ := List.mem_filterMap.mp hn
    obtain ⟨before, behind, heq, -⟩ := List.lookup_eq_some_iff.mp hm
    exact haliased (m.index, n) (by simp [heq])
  have hrows : (f.rows columns).Plain :=
    ⟨List.forall_mem_cons.mpr ⟨plain_outputColumn hf.anchor hitem, hplain⟩, hf.built.joins,
      by simp [Frame.rows, hf.built.groupBy], by simp [Frame.rows, hf.built.orderBy]⟩
  exact hf.built.linesUp_countBy hf.anchor h.predicate hrows rfl rfl hf.built.limit hf.built.offset
    hderived hitem hcount hnames d

end

end Primary

namespace Collection

/-- What is known of the names in a frame. -/
structure Frame.Named (predicate : Predicate) (f : Frame) : Prop where
  sound : f.plan.aliases.Sound
  built : f.plan.Built f.anchor predicate f.statement
  anchor : f.anchor.Plain
  value : f.value.Plain
  qualify : ∀ c column, f.plan.tables.qualify c = .ok column → isIdentifier c.column → column.Plain

section

variable {schema : Schema} {ms : Mentions} {predicate : Predicate} {target : Attribute}
  {necessary : List AspectId} {aliases aliases' : Aliases AliasKey}

theorem value_of_frame {f : Frame} (h : frame schema predicate target necessary aliases = .ok f) :
    ∃ c, f.plan.tables.qualify c = .ok f.value ∧ c.column = schema.naming.valueColumn := by
  obtain ⟨c, joined, p₀, p₁, hrows, -, -, -, hvalue, -⟩ := frame_eq_ok_iff.mp h
  refine ⟨c, hvalue, ?_⟩
  unfold addRows at hrows
  split at hrows
  · obtain ⟨-, rfl, -⟩ := by simpa using hrows
    rfl
  · obtain ⟨-, rfl, -⟩ := by simpa using hrows
    rfl
  · simp at hrows
  · simp at hrows

theorem named_of_frame (h : Known schema ms predicate target necessary) (hs : schema.Proper)
    (haliases : aliases.Sound) {f : Frame}
    (hframe : frame schema predicate target necessary aliases = .ok f) : f.Named predicate := by
  obtain ⟨ops, db, hdb⟩ := exists_keyed schema
  obtain ⟨g, hg, hf⟩ := fits_frame h hdb hs haliases
  obtain rfl := Except.ok.inj (hframe.symm.trans hg)
  obtain ⟨c, hc, hcolumn⟩ := value_of_frame hframe
  exact ⟨hf.plan.sound.aliases, hf.plan.built h.predicate hf.mentions hf.statement,
    hf.plan.plain_anchor hs hf.anchor, hf.plan.plain_qualify hc (hcolumn ▸ hs.naming.valueColumn),
    fun c column => hf.plan.plain_qualify⟩

theorem Frame.Named.plain_outputs {f : Frame} (hf : f.Named predicate) {itemId value : String}
    (hitem : IsAlias itemId) (hvalue : IsAlias value) :
    ∀ o ∈ [JoinPlan.outputColumn f.anchor itemId, JoinPlan.outputColumn f.value value], o.Plain :=
  List.forall_mem_cons.mpr ⟨plain_outputColumn hf.anchor hitem,
    List.forall_mem_singleton.mpr (plain_outputColumn hf.value hvalue)⟩

theorem Frame.Named.plain_valueOrder {f : Frame} (hf : f.Named predicate) (hs : schema.Proper)
    {keys : List Sql.OrderKey} (h : valueOrder schema.naming f = .ok keys) :
    ∀ k ∈ keys, k.column.Plain := by
  unfold valueOrder at h
  split at h
  · obtain rfl := pure_eq_ok.mp h
    exact List.forall_mem_singleton.mpr hf.anchor
  · rename_i name hname
    obtain ⟨column, hcolumn, h⟩ := bind_eq_ok.mp h
    obtain rfl := pure_eq_ok.mp h
    refine List.forall_mem_cons.mpr ⟨hf.anchor, List.forall_mem_singleton.mpr ?_⟩
    exact hf.qualify _ column hcolumn (hs.naming.valueOrderColumn name hname)

theorem linesUp_correlated (h : Known schema ms predicate target necessary) (hs : schema.Proper)
    (haliases : aliases.Sound) {s : CorrelatedStatement}
    (hcorrelated : correlated schema predicate target necessary aliases = .ok (s, aliases'))
    (d : Sql.Dialect) : LinesUp predicate (s.bound d) "" := by
  obtain ⟨f, hframe, keys, hkeys, rfl, -⟩ := correlated_eq_ok_iff.mp hcorrelated
  have hf := named_of_frame h hs haliases hframe
  obtain ⟨hitem, hsound⟩ := JoinPlan.isAlias_allot hf.sound .itemId (.inr rfl) (by simp)
  obtain ⟨hvalue, -⟩ := JoinPlan.isAlias_allot hsound .value (.inr rfl) (by simp)
  have hplain : (f.pairs keys).Plain :=
    ⟨hf.plain_outputs hitem hvalue, hf.built.joins, by simp [Frame.pairs, hf.built.groupBy],
      hf.plain_valueOrder hs hkeys⟩
  have hlines := hf.built.linesUp hf.anchor h.predicate hplain rfl rfl d
  rwa [Frame.pairs, hf.built.page_eq d] at hlines

theorem linesUp_distinct (h : Known schema ms predicate target necessary) (hs : schema.Proper)
    (haliases : aliases.Sound) {s : DistinctValueStatement}
    (hdistinct : distinct schema predicate target necessary aliases = .ok (s, aliases'))
    (d : Sql.Dialect) : LinesUp predicate (s.bound d) "" := by
  obtain ⟨f, hframe, hdistinct⟩ := bind_eq_ok.mp hdistinct
  obtain ⟨rfl, -⟩ := Prod.mk.inj (pure_eq_ok.mp hdistinct)
  have hf := named_of_frame h hs haliases hframe
  obtain ⟨hvalue, -⟩ := JoinPlan.isAlias_allot hf.sound .value (.inr rfl) (by simp)
  have hplain : Sql.Select.Plain { f.statement.select with
      distinct := true
      outputs := [JoinPlan.outputColumn f.value (f.plan.allot .value AliasKey.columnStem).1]
      orderBy := [{ column := f.value }] } :=
    ⟨List.forall_mem_singleton.mpr (plain_outputColumn hf.value hvalue), hf.built.joins,
      by simp [hf.built.groupBy], List.forall_mem_singleton.mpr hf.value⟩
  have hlines := hf.built.linesUp hf.anchor h.predicate hplain rfl rfl d
  rwa [hf.built.page_eq d] at hlines

theorem linesUp_grouped (h : Known schema ms predicate target necessary) (hs : schema.Proper)
    (haliases : aliases.Sound) {s : GroupedValueStatement}
    (hgrouped : grouped schema predicate target necessary aliases = .ok (s, aliases'))
    (d : Sql.Dialect) : LinesUp predicate (s.bound d) "" := by
  obtain ⟨f, hframe, hgrouped⟩ := bind_eq_ok.mp hgrouped
  obtain ⟨rfl, -⟩ := Prod.mk.inj (pure_eq_ok.mp hgrouped)
  have hf := named_of_frame h hs haliases hframe
  obtain ⟨hitem, hsound⟩ := JoinPlan.isAlias_allot hf.sound .itemId (.inr rfl) (by simp)
  obtain ⟨hvalue, hsound₁⟩ := JoinPlan.isAlias_allot hsound .value (.inr rfl) (by simp)
  obtain ⟨hderived, hsound₂⟩ := JoinPlan.isAlias_allot hsound₁ .derived (.inl rfl) (by simp)
  obtain ⟨hcount, -⟩ := JoinPlan.isAlias_allot hsound₂ .count (.inr rfl) (by simp)
  have hrows : Sql.Select.Plain { f.statement.select with
      distinct := true
      outputs := [JoinPlan.outputColumn f.anchor (f.plan.allot .itemId AliasKey.columnStem).1,
        JoinPlan.outputColumn f.value
          ((f.plan.allot .itemId AliasKey.columnStem).2.allot .value AliasKey.columnStem).1] } :=
    ⟨hf.plain_outputs hitem hvalue, hf.built.joins, by simp [hf.built.groupBy],
      by simp [hf.built.orderBy]⟩
  exact hf.built.linesUp_countBy hf.anchor h.predicate hrows rfl rfl hf.built.limit hf.built.offset
    hderived hitem hcount (List.forall_mem_singleton.mpr hvalue) d

end

end Collection

end AspectQuery
