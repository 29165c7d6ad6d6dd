import AspectQuery.Proofs.Sql.Truth
import AspectQuery.Sql.Select
import AspectQuery.Value
/-!
# Contents of a database and the rows of a statement

A table holds records, which give a value to every column. A scope is a row of FROM and JOIN: the
records of some tables under their aliases, the one that was joined last in front.
-/

set_option autoImplicit false

namespace AspectQuery.Sql

/-- What the elementary operators of a store give. Nothing is known of them but that two different
numbers are not equal. -/
structure Operators where
  relate : Relation → Value → Value → Truth
  like : Value → Value → Option String → Truth
  similarTo : Value → Value → Option String → Truth
  between : Value → Value → Value → Truth
  upper : Value → Value
  one_ne_two : relate .eq (.integer 1) (.integer 2) = .fails

/-- Operators that tell whether two values are the same, and nothing else. -/
def Operators.equality : Operators where
  relate op v w := if op = .eq ∧ v ≠ .null ∧ w ≠ .null then .ofBool (v = w) else .unknown
  like _ _ _ := .unknown
  similarTo _ _ _ := .unknown
  between _ _ _ := .unknown
  upper v := v
  one_ne_two := rfl

abbrev Record := String → Value

/-- The record that a left join puts in where nothing matches. -/
def Record.null : Record := fun _ => .null

/-- The records of every table by its name. -/
abbrev Contents := String → List Record

abbrev Scope := List (String × Record)

def Scope.cell (σ : Scope) (c : Column) : Value :=
  match σ.lookup c.qualifier with
  | some r => r c.name
  | none => .null

theorem Scope.cell_cons_self (r : Record) (σ : Scope) (a name : String) :
    Scope.cell ((a, r) :: σ) ⟨a, name⟩ = r name := by
  simp [Scope.cell]

theorem Scope.cell_cons_of_ne {a : String} {c : Column} (h : c.qualifier ≠ a) (r : Record)
    (σ : Scope) : Scope.cell ((a, r) :: σ) c = σ.cell c := by
  simp [Scope.cell, List.lookup_cons, beq_false_of_ne h]

/-- Tables of other aliases in front do not matter. -/
theorem Scope.cell_append {τ : Scope} {c : Column} (h : c.qualifier ∉ τ.map Prod.fst)
    (σ : Scope) : Scope.cell (τ ++ σ) c = σ.cell c := by
  induction τ with
  | nil => rfl
  | cons e τ ih =>
    simp only [List.map_cons, List.mem_cons, not_or] at h
    exact (Scope.cell_cons_of_ne h.1 e.2 (τ ++ σ)).trans (ih h.2)

section

variable (ops : Operators) (db : Contents)

namespace Join

/-- The scope with each record of the joined table that meets the condition. -/
def matching (j : Join) (σ : Scope) : List Scope :=
  ((db j.table).map fun r => (j.aliasName, r) :: σ).filter fun τ =>
    ops.relate .eq (τ.cell j.left) (τ.cell j.right) = .holds

/-- A left join keeps a scope that nothing matches. -/
def extend (j : Join) (σ : Scope) : List Scope :=
  match j.kind, j.matching ops db σ with
  | .leftOuter, [] => [(j.aliasName, Record.null) :: σ]
  | _, τs => τs

end Join

/-- The scopes that joins make of one, in the order of the joins. -/
def joined (js : List Join) (σ : Scope) : List Scope :=
  js.foldl (fun σs j => σs.flatMap (j.extend ops db)) [σ]

/-- The scopes over a table and what is joined to it, inside another scope. -/
def tableScopes (table aliasName : String) (js : List Join) (outer : Scope) : List Scope :=
  (db table).flatMap fun r => joined ops db js ((aliasName, r) :: outer)

/-- The rows of FROM and JOIN of a statement over a table. -/
def Select.scopes (s : Select) : List Scope :=
  match s.source with
  | some (.table name aliasName) => tableScopes ops db name aliasName s.joins []
  | _ => []

theorem joined_nil (σ : Scope) : joined ops db [] σ = [σ] := rfl

theorem joined_append_singleton (js : List Join) (j : Join) (σ : Scope) :
    joined ops db (js ++ [j]) σ = (joined ops db js σ).flatMap (j.extend ops db) := by
  simp [joined]

end

end AspectQuery.Sql
