import AspectQuery.Proofs.Sql.Reading
import AspectQuery.Store
/-!
# The scopes of statements

A statement knows its tables by the aliases that FROM and JOIN introduce. A column is in scope where
its table has been introduced: ON sees the tables up to its own, everything else sees all tables of
its level, and the subqueries of a condition see their own tables as well.
-/

set_option autoImplicit false

namespace AspectQuery.Sql

def Column.Scoped (tables : List String) (c : Column) : Prop := c.qualifier ∈ tables

def Operand.Scoped (tables : List String) : Operand → Prop
  | .cell c => c.Scoped tables
  | .upper x => x.Scoped tables
  | _ => True

theorem Operand.Scoped.mono {tables tables' : List String} (h : tables ⊆ tables') {x : Operand}
    (hx : x.Scoped tables) : x.Scoped tables' := by
  induction x with
  | cell c => exact h hx
  | upper x ih => exact ih hx
  | _ => trivial

/-- Each join compares columns of its own table and of the tables before it. -/
def JoinsScoped : List String → List Join → Prop
  | _, [] => True
  | tables, j :: js => j.left.Scoped (tables ++ [j.aliasName]) ∧
      j.right.Scoped (tables ++ [j.aliasName]) ∧ JoinsScoped (tables ++ [j.aliasName]) js

theorem joinsScoped_append {tables : List String} {js ks : List Join} (hjs : JoinsScoped tables js)
    (hks : JoinsScoped (tables ++ js.map Join.aliasName) ks) : JoinsScoped tables (js ++ ks) := by
  induction js generalizing tables with
  | nil => simpa using hks
  | cons j js ih =>
    obtain ⟨hleft, hright, hrest⟩ := hjs
    exact ⟨hleft, hright, ih hrest (by simpa using hks)⟩

/-- The aliases that a subquery introduces. -/
def Subquery.tables (q : Subquery) : List String := q.aliasName :: q.joins.map Join.aliasName

/-- A formula among tables, to which a subquery adds its own. -/
def Formula.Scoped : List String → Formula → Prop
  | tables, .relate _ x y => x.Scoped tables ∧ y.Scoped tables
  | tables, .isNull x => x.Scoped tables
  | tables, .like x pattern _ => x.Scoped tables ∧ pattern.Scoped tables
  | tables, .similarTo x pattern _ => x.Scoped tables ∧ pattern.Scoped tables
  | tables, .between x low high => x.Scoped tables ∧ low.Scoped tables ∧ high.Scoped tables
  | tables, .among x ys => x.Scoped tables ∧ ∀ y ∈ ys, y.Scoped tables
  | tables, .not f => f.Scoped tables
  | tables, .and f g => f.Scoped tables ∧ g.Scoped tables
  | tables, .or f g => f.Scoped tables ∧ g.Scoped tables
  | tables, .existence rows f =>
    JoinsScoped [rows.aliasName] rows.joins ∧ f.Scoped (rows.tables ++ tables)

/-- The aliases by which the tables of subqueries go. -/
def subqueryAliases : List String := ["VAL", "NM"]

def Source.aliasName {Query : Type} : Source Query → String
  | .table _ aliasName => aliasName
  | .derived _ aliasName => aliasName

def Expression.operand : Expression → Column
  | .column c => c
  | .count c => c

namespace Select

/-- The alias behind FROM. -/
def bases (s : Select) : List String := (s.source.map Source.aliasName).toList

/-- The aliases of FROM and JOIN, in their order. -/
def tables (s : Select) : List String := s.bases ++ s.joins.map Join.aliasName

/-- The names of the outputs. -/
def names (s : Select) : List String := s.outputs.filterMap Output.aliasName

/-- The columns of SELECT, GROUP BY and ORDER BY. -/
def columns (s : Select) : List Column :=
  s.outputs.map (fun o => o.expression.operand) ++ s.groupBy ++ s.orderBy.map OrderKey.column

mutual

/-- A statement and the statements that it selects from. -/
def levels : Select → List Select
  | s@⟨_, _, source, _, _, _, _, _, _⟩ => s :: levelsOf source

def levelsOf : Option (Source Select) → List Select
  | some (.derived query _) => query.levels
  | _ => []

end

/-- All columns of a level are in scope. -/
structure Scoped (params : List Value) (s : Select) : Prop where
  columns : ∀ c ∈ s.columns, c.Scoped s.tables
  joins : JoinsScoped s.bases s.joins
  /-- The columns in the text of the condition are those of the tables, and behind EXISTS also
  those of the tables of the subquery. -/
  condition : ∀ text ∈ s.condition, ∃ ls f, lexemes? (symbols text) = some ls ∧
    (∀ c, .operand (.cell c) ∈ ls → c.Scoped (s.tables ++ subqueryAliases)) ∧
      formula? params (symbols text) = some f ∧ f.Scoped s.tables
  /-- Of another statement only the outputs are known. -/
  derived : ∀ query aliasName, s.source = some (.derived query aliasName) →
    ∀ c ∈ s.columns, c.qualifier = aliasName → c.name ∈ query.names

/-- A row of the statement answers an alias with the value of the output of this name. -/
def Answers (s : Select) (aliasName : String) : Prop :=
  ∃ (i : Nat) (o : Output), s.outputs[i]? = some o ∧ o.aliasName = some aliasName ∧
    ∀ r : Row, r.columns = s.names → ∀ v, r.values[i]? = some v → r.require aliasName = .ok v

end Select

end AspectQuery.Sql

namespace AspectQuery

theorem Row.require_of_columns {r : Row} {i : Nat} {a : String} {v : Value}
    (hnames : r.columns.Pairwise fun a b => sameName a b = false) (ha : r.columns[i]? = some a)
    (hv : r.values[i]? = some v) : r.require a = .ok v := by
  obtain ⟨hi, rfl⟩ := List.getElem?_eq_some_iff.mp ha
  have hfind : (r.columns.findIdx? fun c => sameName c r.columns[i]) = some i := by
    rw [List.findIdx?_eq_some_iff_getElem]
    refine ⟨hi, by simp [sameName], fun j hj => ?_⟩
    simpa using List.pairwise_iff_getElem.mp hnames j i (Nat.lt_trans hj hi) hi hj
  rw [require, get?, hfind, Option.bind_some, hv]

namespace Sql.Select

theorem map_aliasName {os : List Output} (h : ∀ o ∈ os, o.aliasName.isSome) :
    os.map Output.aliasName = (os.filterMap Output.aliasName).map some := by
  induction os with
  | nil => rfl
  | cons o os ih =>
    obtain ⟨a, ha⟩ := Option.isSome_iff_exists.mp (h o List.mem_cons_self)
    rw [List.map_cons, List.filterMap_cons_some ha, List.map_cons, ha,
      ih fun o ho => h o (List.mem_cons_of_mem _ ho)]

theorem answers_of_mem {s : Select} (hnamed : ∀ o ∈ s.outputs, o.aliasName.isSome)
    (hnames : s.names.Pairwise fun a b => Row.sameName a b = false) {a : String}
    (ha : a ∈ s.names) : s.Answers a := by
  obtain ⟨i, hi⟩ := List.mem_iff_getElem?.mp ha
  have hout : (s.outputs.map Output.aliasName)[i]? = some (some a) := by
    rw [map_aliasName hnamed, List.getElem?_map]
    exact congrArg (Option.map some) hi
  rw [List.getElem?_map] at hout
  obtain ⟨o, ho, hname⟩ := Option.map_eq_some_iff.mp hout
  refine ⟨i, o, ho, hname, fun r hr v hv => ?_⟩
  exact Row.require_of_columns (hr ▸ hnames) (hr ▸ hi) hv

end Sql.Select

end AspectQuery
