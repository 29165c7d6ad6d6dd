import AspectQuery.Proofs.Statement.Binding
/-!
# The rows of statements

The condition of a statement is read as the formula of its predicate, whose truth depends on a row
only through the columns of the mentions and the anchor. A statement has the rows of its base that
the plan keeps and whose items the predicate holds for.
-/

set_option autoImplicit false

namespace AspectQuery

open Sql (Column Contents Formula Operand Operators Record Scope Referents Truth isIdentifier
  symbols)

section

variable (ops : Operators) (db : Contents)

/-- The rows of FROM and JOIN that meet the condition of the statement, if it can be read. -/
def Statement.rows? (s : Statement) : Option (List Scope) :=
  match s.select.condition with
  | none => some (s.select.scopes ops db)
  | some text => (Sql.formula? s.params (symbols text)).map fun f =>
    (s.select.scopes ops db).filter fun σ => f.truth ops db { scope := σ } = .holds

/-- The predicate holds for the item of an id. -/
def Predicate.admits (schema : Schema) (predicate : Predicate) (id : Value) : Bool :=
  predicate.truth ops db id (fun m => stored db schema id m.target) = .holds

end

namespace Statement

variable {ops : Operators} {db : Contents} {s t : Statement}

theorem rows?_of_condition {text : String} (h : s.select.condition = some text) : s.rows? ops db =
    (Sql.formula? s.params (symbols text)).map fun f =>
      (s.select.scopes ops db).filter fun σ => f.truth ops db { scope := σ } = .holds := by
  simp only [rows?, h]

/-- A statement has the tables and the condition of another one. -/
structure Extends (s t : Statement) : Prop where
  source : s.select.source = t.select.source
  joins : s.select.joins = t.select.joins
  condition : s.select.condition = t.select.condition
  params : s.params = t.params

theorem Extends.scopes_eq (h : s.Extends t) : s.select.scopes ops db = t.select.scopes ops db := by
  simp only [Sql.Select.scopes, h.source, h.joins]

theorem Extends.rows?_eq (h : s.Extends t) : s.rows? ops db = t.rows? ops db := by
  simp only [rows?, h.condition, h.params, h.scopes_eq]

/-- The rows of a statement are the scopes in which the predicate holds for the item in a column. -/
structure Selects (ops : Operators) (db : Contents) (schema : Schema) (predicate : Predicate)
    (column : Column) (s : Statement) (σs : List Scope) : Prop where
  params : s.params = predicate.params
  scopes : s.select.scopes ops db = σs
  rows : s.rows? ops db =
    some (σs.filter fun σ => predicate.admits ops db schema (σ.cell column))

theorem Extends.selects (h : s.Extends t) {schema : Schema} {predicate : Predicate}
    {column : Column} {σs : List Scope} (ht : t.Selects ops db schema predicate column σs) :
    s.Selects ops db schema predicate column σs :=
  ⟨h.params.trans ht.params, h.scopes_eq.trans ht.scopes, h.rows?_eq.trans ht.rows⟩

end Statement

namespace JoinPlan

section

variable {ops : Operators} {db : Contents} {schema : Schema} {ms : Mentions} {base : String}
  {anchor : ColumnRef} {kept : Record → Bool} {p : JoinPlan} {predicate : Predicate}

theorem Fits.qualify_anchor (h : p.Fits ops db schema ms base anchor kept) :
    ∃ column, p.tables.qualify anchor = .ok column ∧ IsAlias column.qualifier ∧
      column.name = schema.naming.itemIdColumn ∧ ∀ r ∈ db base,
        (p.tables.scope (records db schema r)).cell column = r schema.naming.itemIdColumn := by
  obtain ⟨i, hi, hid, hvalue⟩ := h.mem_anchor
  have hqualify := Tables.qualify_of_mem h.sound hi anchor.column
  rw [hid] at hqualify
  refine ⟨_, hqualify, h.sound.aliases.isAlias _ (h.sound.used i hi), h.anchor, fun r hr => ?_⟩
  rw [Tables.cell_scope h.sound.distinct hi, hvalue r hr]

theorem Fits.cell_anchor (h : p.Fits ops db schema ms base anchor kept) {column : Column}
    (hqualify : p.tables.qualify anchor = .ok column) {r : Record} (hr : r ∈ db base) :
    (p.tables.scope (records db schema r)).cell column = r schema.naming.itemIdColumn := by
  obtain ⟨column', hqualify', -, -, hcell⟩ := h.qualify_anchor
  obtain rfl := Except.ok.inj (hqualify.symm.trans hqualify')
  exact hcell r hr

theorem Fits.cell_scope (h : p.Fits ops db schema ms base anchor kept) {m : Mention}
    {c : ColumnRef} (hm : m.Known schema ms) (hc : p.column? m = some c) {r : Record}
    (hr : r ∈ db base) : (p.tables.scope (records db schema r)).cell (p.cell m) =
      stored db schema (r schema.naming.itemIdColumn) m.target := by
  obtain ⟨-, i, hi, hcell, hvalue⟩ := h.cell_eq hm hc
  rw [hcell, Tables.cell_scope h.sound.distinct hi, hvalue r hr]

/-- The rows of FROM and JOIN are the rows of the base that the plan keeps. -/
theorem Fits.scopes_eq (h : p.Fits ops db schema ms base anchor kept) {s : Sql.Select}
    (hsource : s.source = p.tables.source) (hjoins : p.tables.joins = .ok s.joins) :
    s.scopes ops db =
      ((db base).filter kept).map fun r => p.tables.scope (records db schema r) := by
  obtain ⟨i, rest, hi, -, hname, hrow⟩ := h.source
  have hjoined : ∀ r ∈ db base, Sql.joined ops db s.joins [(i.aliasName, r)] =
      if kept r then [p.tables.scope (records db schema r)] else [] := by
    intro r hr
    obtain ⟨js, j, rest', hj, hjs, hjoined⟩ := h.yields r hr
    obtain ⟨rfl, -⟩ := List.cons.inj (hi.symm.trans hj)
    obtain rfl := Except.ok.inj (hjs.symm.trans hjoins)
    rwa [hrow r hr] at hjoined
  simp only [Sql.Select.scopes, hsource, Tables.source, hi, List.head?_cons, Option.map_some,
    Sql.tableScopes, hname]
  rw [List.flatMap_congr hjoined]
  induction db base with
  | nil => rfl
  | cons r rs ih => cases hr : kept r <;> simp [hr, ih]

theorem steady_cell {column : Column} (h : IsAlias column.qualifier) (ρ : Referents) :
    Steady ops (.cell column) ρ := by
  intro τ hτ
  refine Scope.cell_append (fun hmem => ?_) ρ.scope
  rcases hτ _ hmem with heq | heq
  · exact h.ne_subquery.1 heq
  · exact h.ne_subquery.2 heq

/-- The text of a condition is read as a formula that has the truth of the condition in the row of
every item. -/
theorem Fits.formula? (h : p.Fits ops db schema ms base anchor kept) (hs : schema.Proper)
    {column : Column} (hqualify : p.tables.qualify anchor = .ok column) {c : Condition}
    (hc : c.Compiled schema ms) (hcolumns : ∀ m ∈ c.mentions, ∃ d, p.column? m = some d) :
    ∃ f, Sql.formula? (Segment.params c.segments)
        (c.segments.flatMap fun s => symbols (p.boundText column s)) = some f ∧
      (c.segments.flatMap fun s => symbols (p.boundText column s)) ≠ [] ∧
      ∀ r ∈ db base, f.truth ops db { scope := p.tables.scope (records db schema r) } =
        c.truth ops db (r schema.naming.itemIdColumn)
          fun m => stored db schema (r schema.naming.itemIdColumn) m.target := by
  obtain ⟨column', hqualify', halias, hname, hanchor⟩ := h.qualify_anchor
  obtain rfl := Except.ok.inj (hqualify.symm.trans hqualify')
  have hmeans := c.means
    (Wording.bound p column halias.isIdentifier (hname ▸ hs.naming.itemIdColumn)) hc.proper
  have hformula := hmeans.formula?
  have hvalues : c.segments.flatMap (fun s => s.value?.toList) = Segment.params c.segments :=
    (List.filterMap_eq_flatMap_toList ..).symm
  refine ⟨_, hvalues ▸ hformula, hmeans.write_ne_nil, fun r hr => ?_⟩
  refine (c.truth_formula hc.proper (steady_cell halias _)).trans ?_
  simp only [Operand.value, hanchor r hr]
  refine c.truth_congr fun m hm => ?_
  obtain ⟨d, hd⟩ := hcolumns m hm
  exact h.cell_scope (hc.known m hm) hd hr

theorem isEmpty_join_iff (texts : List String) :
    (String.join texts).isEmpty ↔ texts.flatMap symbols = [] := by
  rw [← symbols_join, String.isEmpty_iff, ← String.toList_eq_nil_iff]
  exact List.map_eq_nil_iff.symm

/-- The statement of a plan selects from the rows of the base that the plan keeps. -/
theorem Fits.statement (h : p.Fits ops db schema ms base anchor kept) (hs : schema.Proper)
    {column : Column} (hqualify : p.tables.qualify anchor = .ok column)
    (hp : predicate.Compiled schema ms)
    (hcolumns : ∀ m ∈ predicate.mentions, ∃ c, p.column? m = some c) :
    ∃ s, p.statement column predicate = .ok s ∧ s.Selects ops db schema predicate column
      (((db base).filter kept).map fun r => p.tables.scope (records db schema r)) := by
  obtain ⟨js, hjs⟩ := h.joins
  have hbind := h.bind_eq column hp hcolumns
  have hscopes : ∀ condition : Option String, Sql.Select.scopes ops db
      { source := p.tables.source, joins := js, condition } =
        ((db base).filter kept).map fun r => p.tables.scope (records db schema r) :=
    fun _ => h.scopes_eq rfl hjs
  refine ⟨_, by simp only [JoinPlan.statement, hbind, hjs]; rfl, rfl, hscopes _, ?_⟩
  obtain ⟨_ | c⟩ := predicate
  · have hadmits : ∀ id, Predicate.admits ops db schema ⟨none⟩ id := fun _ => rfl
    simp only [hadmits, List.filter_true]
    exact congrArg some (hscopes none)
  · obtain ⟨f, hformula, hne, htruth⟩ := h.formula? hs hqualify (hp c rfl) hcolumns
    have hempty : ¬(String.join (c.segments.map (p.boundText column))).isEmpty := by
      rw [isEmpty_join_iff, List.flatMap_map]
      exact hne
    have hsymbols := symbols_join (c.segments.map (p.boundText column))
    rw [List.flatMap_map] at hsymbols
    refine (Statement.rows?_of_condition (if_neg hempty)).trans ?_
    simp only [Predicate.params, Predicate.segments, Option.map_some, Option.getD_some, hsymbols,
      hformula, hscopes]
    refine congrArg some (List.filter_congr fun σ hσ => ?_)
    obtain ⟨r, hr, rfl⟩ := List.mem_map.mp hσ
    have hmem := List.mem_of_mem_filter hr
    rw [htruth r hmem, h.cell_anchor hqualify hmem]
    rfl

theorem Fits.selects (h : p.Fits ops db schema ms base anchor kept) (hs : schema.Proper)
    {column : Column} (hqualify : p.tables.qualify anchor = .ok column)
    (hp : predicate.Compiled schema ms)
    (hcolumns : ∀ m ∈ predicate.mentions, ∃ c, p.column? m = some c) {s t : Statement}
    (ht : p.statement column predicate = .ok t) (hst : s.Extends t) :
    s.Selects ops db schema predicate column
      (((db base).filter kept).map fun r => p.tables.scope (records db schema r)) := by
  obtain ⟨t', ht', hselects⟩ := h.statement hs hqualify hp hcolumns
  obtain rfl := Except.ok.inj (ht.symm.trans ht')
  exact hst.selects hselects

end

end JoinPlan

end AspectQuery
