import AspectQuery.Proofs.Sql.Lexeme
/-!
# Reading conditions

The lexemes of a condition are read as a formula: NOT binds before AND, AND before OR, and the AND
behind BETWEEN belongs to it. Names are known by their places, so that none of them is reserved.
The values of a statement stand for its placeholders from left to right, one for each.
-/

set_option autoImplicit false

namespace AspectQuery.Sql

/-- Puts values in the places of the placeholders. -/
def supply : List Value → List Lexeme → Option (List Lexeme)
  | [], [] => some []
  | _ :: _, [] => none
  | v :: vs, .placeholder :: ls => (supply vs ls).map (.operand (.constant v) :: ·)
  | [], .placeholder :: _ => none
  | vs, l :: ls => (supply vs ls).map (l :: ·)

/-- What a condition is made of between its tests. -/
inductive Item where
  | not
  | and
  | or
  | openParen
  | closeParen
  /-- The start of a subquery, up to its condition. -/
  | existence (rows : Subquery)
  | test (f : Formula)

section

/-! Each function reads the start of a list of lexemes and gives the rest. -/

def operand? : List Lexeme → Option (Operand × List Lexeme)
  | .operand x :: ls => some (x, ls)
  | .word "UPPER" :: .openParen :: .operand x :: .closeParen :: ls => some (.upper x, ls)
  | _ => none

def escape? : List Lexeme → Option String × List Lexeme
  | .word "ESCAPE" :: .literal s :: ls => (some s, ls)
  | ls => (none, ls)

/-- A pattern with its escape character. -/
def pattern? (make : Operand → Option String → Formula) (ls : List Lexeme) :
    Option (Formula × List Lexeme) :=
  (operand? ls).map fun (x, ls) => (make x (escape? ls).1, (escape? ls).2)

/-- The values of a list and the parenthesis behind them. -/
def list? : List Lexeme → Option (List Operand × List Lexeme)
  | .operand x :: .closeParen :: ls => some ([x], ls)
  | .operand x :: .comma :: ls => (list? ls).map fun (xs, ls) => (x :: xs, ls)
  | _ => none

/-- The test of an operand. -/
def test? (x : Operand) : List Lexeme → Option (Formula × List Lexeme)
  | .relation op :: ls => (operand? ls).map fun (y, ls) => (.relate op x y, ls)
  | .word "IS" :: .word "NULL" :: ls => some (.isNull x, ls)
  | .word "LIKE" :: ls => pattern? (.like x) ls
  | .word "SIMILAR" :: .word "TO" :: ls => pattern? (.similarTo x) ls
  | .word "BETWEEN" :: .operand low :: .word "AND" :: .operand high :: ls =>
    some (.between x low high, ls)
  | .word "IN" :: .openParen :: ls => (list? ls).map fun (ys, ls) => (.among x ys, ls)
  | _ => none

/-- The joins of a subquery up to WHERE. -/
def joins? : List Lexeme → Option (List Join × List Lexeme)
  | .word "WHERE" :: ls => some ([], ls)
  | .word "INNER" :: .word "JOIN" :: .word table :: .word aliasName :: .word "ON" ::
      .operand (.cell left) :: .relation .eq :: .operand (.cell right) :: ls =>
    (joins? ls).map fun (js, ls) => (⟨.inner, table, aliasName, left, right⟩ :: js, ls)
  | _ => none

def subquery? : List Lexeme → Option (Subquery × List Lexeme)
  | .openParen :: .word "SELECT" :: .operand (.cell _) :: .word "FROM" :: .word table ::
      .word aliasName :: ls =>
    (joins? ls).map fun (js, ls) => (⟨table, aliasName, js⟩, ls)
  | _ => none

def item? : List Lexeme → Option (Item × List Lexeme)
  | .word "NOT" :: ls => some (.not, ls)
  | .word "AND" :: ls => some (.and, ls)
  | .word "OR" :: ls => some (.or, ls)
  | .openParen :: ls => some (.openParen, ls)
  | .closeParen :: ls => some (.closeParen, ls)
  | .word "EXISTS" :: ls => (subquery? ls).map fun (rows, ls) => (.existence rows, ls)
  | ls => do
    let (x, ls) ← operand? ls
    let (f, ls) ← test? x ls
    return (.test f, ls)

end

theorem length_operand? {ls rest : List Lexeme} {x : Operand} (h : operand? ls = some (x, rest)) :
    rest.length < ls.length := by
  fun_cases operand? ls <;> simp_all [operand?]
  omega

theorem length_escape? (ls : List Lexeme) : (escape? ls).2.length ≤ ls.length := by
  fun_cases escape? ls <;> simp
  omega

theorem length_pattern? {make : Operand → Option String → Formula} {ls rest : List Lexeme}
    {f : Formula} (h : pattern? make ls = some (f, rest)) : rest.length < ls.length := by
  obtain ⟨⟨x, ls'⟩, hx, he⟩ := Option.map_eq_some_iff.mp h
  have hx' := length_operand? hx
  have hle := length_escape? ls'
  simp only [Prod.mk.injEq] at he
  rw [← he.2]
  omega

theorem length_list? {ls rest : List Lexeme} {xs : List Operand}
    (h : list? ls = some (xs, rest)) : rest.length < ls.length := by
  fun_induction list? ls generalizing xs with
  | case1 x ls =>
    cases h
    simp only [List.length_cons]
    omega
  | case2 x ls ih =>
    obtain ⟨⟨ys, ls'⟩, hys, he⟩ := Option.map_eq_some_iff.mp h
    obtain ⟨-, rfl⟩ := Prod.mk.injEq .. ▸ he
    have := ih hys
    simp only [List.length_cons]
    omega
  | case3 => simp at h

theorem length_test? {x : Operand} {ls rest : List Lexeme} {f : Formula}
    (h : test? x ls = some (f, rest)) : rest.length < ls.length := by
  fun_cases test? x ls with
  | case1 op ls =>
    obtain ⟨⟨y, ls'⟩, hy, he⟩ := Option.map_eq_some_iff.mp h
    obtain ⟨-, rfl⟩ := Prod.mk.injEq .. ▸ he
    exact Nat.lt_succ_of_lt (length_operand? hy)
  | case2 ls =>
    cases h
    simp only [List.length_cons]
    omega
  | case3 ls => exact Nat.lt_succ_of_lt (length_pattern? h)
  | case4 ls => exact Nat.lt_succ_of_lt (Nat.lt_succ_of_lt (length_pattern? h))
  | case5 low high ls =>
    cases h
    simp only [List.length_cons]
    omega
  | case6 ls =>
    obtain ⟨⟨ys, ls'⟩, hys, he⟩ := Option.map_eq_some_iff.mp h
    obtain ⟨-, rfl⟩ := Prod.mk.injEq .. ▸ he
    exact Nat.lt_succ_of_lt (Nat.lt_succ_of_lt (length_list? hys))
  | case7 => simp_all [test?]

theorem length_joins? {ls rest : List Lexeme} {js : List Join}
    (h : joins? ls = some (js, rest)) : rest.length < ls.length := by
  fun_induction joins? ls generalizing js with
  | case1 => simp_all
  | case2 table aliasName left right ls ih =>
    obtain ⟨⟨ks, ls'⟩, hks, he⟩ := Option.map_eq_some_iff.mp h
    obtain ⟨-, rfl⟩ := Prod.mk.injEq .. ▸ he
    have := ih hks
    simp only [List.length_cons]
    omega
  | case3 => simp at h

theorem length_subquery? {ls rest : List Lexeme} {q : Subquery}
    (h : subquery? ls = some (q, rest)) : rest.length < ls.length := by
  fun_cases subquery? ls with
  | case1 c table aliasName ls =>
    obtain ⟨⟨js, ls'⟩, hjs, he⟩ := Option.map_eq_some_iff.mp h
    obtain ⟨-, rfl⟩ := Prod.mk.injEq .. ▸ he
    have := length_joins? hjs
    simp only [List.length_cons]
    omega
  | case2 => simp_all [subquery?]

theorem length_item? {ls rest : List Lexeme} {i : Item} (h : item? ls = some (i, rest)) :
    rest.length < ls.length := by
  fun_cases item? ls with
  | case6 ls =>
    obtain ⟨⟨q, ls'⟩, hq, he⟩ := Option.map_eq_some_iff.mp h
    obtain ⟨-, rfl⟩ := Prod.mk.injEq .. ▸ he
    exact Nat.lt_succ_of_lt (length_subquery? hq)
  | case7 ls =>
    simp only [item?, Option.bind_eq_bind, Option.bind_eq_some_iff, Option.pure_def,
      Option.some.injEq, Prod.mk.injEq, Prod.exists] at h
    obtain ⟨x, ls', hx, f, ls'', hf, -, rfl⟩ := h
    exact Nat.lt_trans (length_test? hf) (length_operand? hx)
  | _ => simp_all [item?]

/-- A condition as its tests and what is between them. -/
def items? (ls : List Lexeme) : Option (List Item) :=
  match ls with
  | [] => some []
  | l :: ls =>
    match _h : item? (l :: ls) with
    | some (i, rest) => (items? rest).map (i :: ·)
    | none => none
termination_by ls.length
decreasing_by exact length_item? _h

def Formula.negated (f : Formula) : Nat → Formula
  | 0 => f
  | n + 1 => .not (f.negated n)

/-- What an operand goes on with: the operands of OR before it, those of AND before it since the
last OR, and the number of NOT in front of it. -/
structure Opening where
  disjunction : Option Formula := none
  conjunction : Option Formula := none
  negations : Nat := 0

/-- A condition up to the end of an operand. -/
structure Clause where
  disjunction : Option Formula
  conjunction : Formula

def Opening.close (o : Opening) (f : Formula) : Clause :=
  ⟨o.disjunction,
    match o.conjunction with
    | none => f.negated o.negations
    | some g => .and g (f.negated o.negations)⟩

namespace Clause

def formula (c : Clause) : Formula :=
  match c.disjunction with
  | none => c.conjunction
  | some f => .or f c.conjunction

def and (c : Clause) : Opening where
  disjunction := c.disjunction
  conjunction := some c.conjunction

def or (c : Clause) : Opening := { disjunction := some c.formula }

end Clause

/-- What stands between parentheses, which may be those of a subquery. -/
def enclosed : Option Subquery → Formula → Formula
  | none, f => f
  | some rows, f => .existence rows f

mutual

/-- Reads on where an operand is due. The parentheses that are open are known with what they go on
with, the innermost one first. -/
def readOperand (outer : List (Option Subquery × Opening)) (o : Opening) :
    List Item → Option Formula
  | .not :: is => readOperand outer { o with negations := o.negations + 1 } is
  | .openParen :: is => readOperand ((none, o) :: outer) {} is
  | .existence rows :: is => readOperand ((some rows, o) :: outer) {} is
  | .test f :: is => readConnective outer (o.close f) is
  | _ => none

/-- Reads on behind an operand. -/
def readConnective (outer : List (Option Subquery × Opening)) (c : Clause) :
    List Item → Option Formula
  | .and :: is => readOperand outer c.and is
  | .or :: is => readOperand outer c.or is
  | .closeParen :: is =>
    match outer with
    | (rows, o) :: outer => readConnective outer (o.close (enclosed rows c.formula)) is
    | [] => none
  | [] => if outer.isEmpty then some c.formula else none
  | _ => none

end

/-- The formula of a condition with the values for its placeholders. -/
def formula? (params : List Value) (ss : List Symbol) : Option Formula := do
  let ls ← lexemes? ss
  let ls ← supply params ls
  readOperand [] {} (← items? ls)

end AspectQuery.Sql
