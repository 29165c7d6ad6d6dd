import AspectQuery.Proofs.Sql.Contents
/-!
# Formulas

The conditions of statements as trees, and their truth where they stand. A formula may leave open
which column an attribute is in and which one the ids of items are in.
-/

set_option autoImplicit false

namespace AspectQuery.Sql

inductive Operand where
  | cell (c : Column)
  /-- The value of the attribute that is mentioned under a number. -/
  | mention (index : Nat)
  /-- The id of the item. -/
  | anchor
  | constant (v : Value)
  | upper (x : Operand)

/-- The rows of a subquery, over a table and what is joined to it. -/
structure Subquery where
  table : String
  aliasName : String
  joins : List Join

inductive Formula where
  | relate (op : Relation) (x y : Operand)
  | isNull (x : Operand)
  | like (x pattern : Operand) (escape : Option String)
  | similarTo (x pattern : Operand) (escape : Option String)
  | between (x low high : Operand)
  | among (x : Operand) (ys : List Operand)
  | not (f : Formula)
  | and (f g : Formula)
  | or (f g : Formula)
  | existence (rows : Subquery) (f : Formula)

/-- What the operands of a formula refer to. -/
structure Referents where
  scope : Scope := []
  mention : Nat → Value := fun _ => .null
  anchor : Value := .null

section

variable (ops : Operators) (db : Contents)

def Operand.value (ρ : Referents) : Operand → Value
  | .cell c => ρ.scope.cell c
  | .mention i => ρ.mention i
  | .anchor => ρ.anchor
  | .constant v => v
  | .upper x => ops.upper (x.value ρ)

def Subquery.scopes (q : Subquery) (outer : Scope) : List Scope :=
  tableScopes ops db q.table q.aliasName q.joins outer

namespace Formula

/-- Membership in a list is equality to one of its values, and existence is never unknown. -/
def truth : Formula → Referents → Truth
  | .relate op x y, ρ => ops.relate op (x.value ops ρ) (y.value ops ρ)
  | .isNull x, ρ => .ofBool (x.value ops ρ).isNull
  | .like x pattern escape, ρ => ops.like (x.value ops ρ) (pattern.value ops ρ) escape
  | .similarTo x pattern escape, ρ => ops.similarTo (x.value ops ρ) (pattern.value ops ρ) escape
  | .between x low high, ρ =>
    ops.between (x.value ops ρ) (low.value ops ρ) (high.value ops ρ)
  | .among x ys, ρ => .any (ys.map fun y => ops.relate .eq (x.value ops ρ) (y.value ops ρ))
  | .not f, ρ => (f.truth ρ).not
  | .and f g, ρ => (f.truth ρ).and (g.truth ρ)
  | .or f g, ρ => (f.truth ρ).or (g.truth ρ)
  | .existence rows f, ρ =>
    .ofBool ((rows.scopes ops db ρ.scope).any fun σ => f.truth { ρ with scope := σ } = .holds)

theorem truth_foldl_and (f : Formula) (fs : List Formula) (ρ : Referents) :
    (fs.foldl and f).truth ops db ρ =
      .and (f.truth ops db ρ) (.all (fs.map (truth ops db · ρ))) := by
  induction fs generalizing f with
  | nil => simp
  | cons g fs ih => simp [ih, truth, Truth.and_assoc]

theorem truth_foldl_or (f : Formula) (fs : List Formula) (ρ : Referents) :
    (fs.foldl or f).truth ops db ρ = .or (f.truth ops db ρ) (.any (fs.map (truth ops db · ρ))) := by
  induction fs generalizing f with
  | nil => simp
  | cons g fs ih => simp [ih, truth, Truth.or_assoc]

end Formula

end

end AspectQuery.Sql
