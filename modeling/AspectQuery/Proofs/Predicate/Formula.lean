import AspectQuery.Proofs.Predicate.Truth
import AspectQuery.Proofs.Sql.Formula
/-!
# The formulas of conditions

A condition as a formula, given the operands for its mentions and for the id of the item. A test on
a collection is a subquery over the rows of the item. The formula has the truth of the condition.
-/

set_option autoImplicit false

namespace AspectQuery

open Sql (Column Contents Formula Operand Operators Scope Subquery Referents Truth)

/-- The formula that is never met. -/
def Sql.Formula.never : Formula :=
  .relate .eq (.constant (.integer 1)) (.constant (.integer 2))

/-- A combination that is grouped from the left. -/
def Connective.formula : Connective → List Formula → Formula
  | _, [] => .never
  | .and, f :: fs => fs.foldl .and f
  | .or, f :: fs => fs.foldl .or f

namespace CollectionRows

def subquery : CollectionRows → Subquery
  | .direct table _ _ => ⟨table, "VAL", []⟩
  | .shared junction values _ valueId _ =>
    ⟨junction, "NM", [⟨.inner, values, "VAL", ⟨"NM", valueId⟩, ⟨"VAL", valueId⟩⟩]⟩

def itemCell : CollectionRows → Column
  | .direct _ itemId _ => ⟨"VAL", itemId⟩
  | .shared _ _ itemId _ _ => ⟨"NM", itemId⟩

def valueCell : CollectionRows → Column
  | .direct _ _ value => ⟨"VAL", value⟩
  | .shared _ _ _ _ value => ⟨"VAL", value⟩

/-- The rows belong to the item. -/
def tie (rows : CollectionRows) (owner : Operand) : Formula :=
  .relate .eq (.cell rows.itemCell) owner

end CollectionRows

def membership (x : Operand) (chunks : List (List Value)) : Formula :=
  Connective.or.formula (chunks.map fun vs => .among x (vs.map .constant))

def Test.formula (x : Operand) : Test → Formula
  | .relational op v => .relate op x (.constant v)
  | .like pattern escape true => .like x (.constant (.text pattern)) (escape.map String.singleton)
  | .like pattern escape false =>
    .like (.upper x) (.upper (.constant (.text pattern))) (escape.map String.singleton)
  | .similarTo pattern escape =>
    .similarTo x (.constant (.text pattern)) (escape.map String.singleton)
  | .between low high => .between x (.constant low) (.constant high)
  | .among chunks => membership x chunks

/-- A list of values is given, and has values. -/
def Test.Proper : Test → Prop
  | .among chunks => chunks ≠ [] ∧ ∀ vs ∈ chunks, vs ≠ []
  | _ => True

/-- All names are identifiers. -/
def CollectionRows.Plain : CollectionRows → Prop
  | .direct table itemId value =>
    Sql.isIdentifier table ∧ Sql.isIdentifier itemId ∧ Sql.isIdentifier value
  | .shared junction values itemId valueId value =>
    Sql.isIdentifier junction ∧ Sql.isIdentifier values ∧ Sql.isIdentifier itemId ∧
      Sql.isIdentifier valueId ∧ Sql.isIdentifier value

def Subject.Plain : Subject → Prop
  | .column _ => True
  | .collection _ rows => rows.Plain

namespace Condition

mutual

/-- Nothing is made of no parts, and all names are identifiers. -/
def Proper : Condition → Prop
  | .never => True
  | .not c => c.Proper
  | .junction _ operands => operands ≠ [] ∧ ProperAll operands
  | .isEmpty s => s.Plain
  | .test s t => s.Plain ∧ t.Proper
  | .itemIds chunks => chunks ≠ [] ∧ ∀ ids ∈ chunks, ids ≠ []

def ProperAll : List Condition → Prop
  | [] => True
  | c :: rest => c.Proper ∧ ProperAll rest

end

section

variable (column : Mention → Operand) (owner : Operand)

mutual

def formula : Condition → Formula
  | .never => .never
  | .not c => .not c.formula
  | .junction op operands => op.formula (formulas operands)
  | .isEmpty (.column m) => .isNull (column m)
  | .isEmpty (.collection _ rows) => .not (.existence rows.subquery (rows.tie owner))
  | .test (.column m) t => t.formula (column m)
  | .test (.collection _ rows) t =>
    .existence rows.subquery (.and (rows.tie owner) (t.formula (.cell rows.valueCell)))
  | .itemIds chunks => membership owner (chunks.map fun ids => ids.map Value.id)

def formulas : List Condition → List Formula
  | [] => []
  | c :: rest => c.formula :: formulas rest

end

end

end Condition

section

variable {ops : Operators} {db : Contents}

theorem Connective.truth_formula (op : Connective) {fs : List Formula} (hfs : fs ≠ [])
    (ρ : Referents) :
    (op.formula fs).truth ops db ρ = op.truth (fs.map fun f => f.truth ops db ρ) := by
  cases fs with
  | nil => exact absurd rfl hfs
  | cons f fs =>
    cases op with
    | and => exact Formula.truth_foldl_and ops db f fs ρ
    | or => exact Formula.truth_foldl_or ops db f fs ρ

theorem truth_never (ρ : Referents) : Formula.never.truth ops db ρ = .fails :=
  ops.one_ne_two

theorem truth_membership (x : Operand) {chunks : List (List Value)} (h : chunks ≠ [])
    (ρ : Referents) :
    (membership x chunks).truth ops db ρ = memberTruth ops chunks.flatten (x.value ops ρ) := by
  rw [membership, Connective.truth_formula _ (by simpa using h), Connective.truth, memberTruth,
    List.map_flatten, Truth.any_flatten, List.map_map, List.map_map]
  congr 1
  refine List.map_congr_left fun vs _ => ?_
  simp [Formula.truth, Operand.value, Function.comp_def]

theorem Test.truth_formula (x : Operand) {t : Test} (h : t.Proper) (ρ : Referents) :
    (t.formula x).truth ops db ρ = t.truth ops (x.value ops ρ) := by
  cases t with
  | like pattern escape caseSensitive => cases caseSensitive <;> rfl
  | among chunks => exact truth_membership x h.1 ρ
  | _ => rfl

namespace CollectionRows

theorem scopes_direct (table itemId value : String) (outer : Scope) :
    (direct table itemId value).subquery.scopes ops db outer =
      (db table).map fun r => ("VAL", r) :: outer := by
  simp only [subquery, Subquery.scopes, Sql.tableScopes, Sql.joined_nil]
  exact List.map_eq_flatMap.symm

theorem scopes_shared (junction values itemId valueId value : String) (outer : Scope) :
    (shared junction values itemId valueId value).subquery.scopes ops db outer =
      (db junction).flatMap fun r =>
        ((db values).filter fun s => ops.relate .eq (r valueId) (s valueId) = .holds).map
          fun s => ("VAL", s) :: ("NM", r) :: outer := by
  simp only [subquery, Subquery.scopes, Sql.tableScopes, Sql.joined, List.foldl_cons,
    List.foldl_nil, List.flatMap_singleton, Sql.Join.extend, Sql.Join.matching, List.filter_map,
    Function.comp_def, Scope.cell_cons_self]
  simp [Scope.cell_cons_of_ne, Scope.cell_cons_self]

theorem values_eq (rows : CollectionRows) (outer : Scope) (id : Value) :
    rows.values ops db id =
      ((rows.subquery.scopes ops db outer).filter fun σ =>
        ops.relate .eq (σ.cell rows.itemCell) id = .holds).map fun σ => σ.cell rows.valueCell := by
  cases rows with
  | direct table itemId value =>
    simp [scopes_direct, values, Contents.valuesOf, List.filter_map, Function.comp_def, itemCell,
      valueCell, Scope.cell_cons_self]
  | shared junction values itemId valueId value =>
    simp only [scopes_shared, CollectionRows.values, Contents.valuesOf, itemCell, valueCell]
    induction db junction with
    | nil => rfl
    | cons r rs ih =>
      by_cases hr : ops.relate .eq (r itemId) id = .holds
      · simp [hr, ih, List.filter_map, Function.comp_def, Scope.cell_cons_self,
          Scope.cell_cons_of_ne]
      · simp [hr, ih, List.filter_map, Function.comp_def, Scope.cell_cons_self,
          Scope.cell_cons_of_ne]

theorem mem_scopes {rows : CollectionRows} {outer σ : Scope}
    (h : σ ∈ rows.subquery.scopes ops db outer) :
    ∃ τ : Scope, σ = τ ++ outer ∧ ∀ a ∈ τ.map Prod.fst, a = "VAL" ∨ a = "NM" := by
  cases rows with
  | direct table itemId value =>
    rw [scopes_direct] at h
    obtain ⟨r, -, rfl⟩ := List.mem_map.mp h
    exact ⟨[("VAL", r)], rfl, by simp⟩
  | shared junction values itemId valueId value =>
    rw [scopes_shared] at h
    obtain ⟨r, -, h⟩ := List.mem_flatMap.mp h
    obtain ⟨s, -, rfl⟩ := List.mem_map.mp h
    exact ⟨[("VAL", s), ("NM", r)], rfl, by simp⟩

end CollectionRows

/-- The operand has the same value inside the subqueries of collections. -/
def Steady (ops : Operators) (owner : Operand) (ρ : Referents) : Prop :=
  ∀ τ : Scope, (∀ a ∈ τ.map Prod.fst, a = "VAL" ∨ a = "NM") →
    owner.value ops { ρ with scope := τ ++ ρ.scope } = owner.value ops ρ

section

variable {owner : Operand} {ρ : Referents}

theorem CollectionRows.truth_tie {rows : CollectionRows} (h : Steady ops owner ρ) {σ : Scope}
    (hσ : σ ∈ rows.subquery.scopes ops db ρ.scope) :
    (rows.tie owner).truth ops db { ρ with scope := σ } =
      ops.relate .eq (σ.cell rows.itemCell) (owner.value ops ρ) := by
  obtain ⟨τ, rfl, hτ⟩ := mem_scopes hσ
  simp only [tie, Formula.truth, h τ hτ, Operand.value]

/-- Some row of the item has a value that meets the test. -/
theorem CollectionRows.truth_existence {rows : CollectionRows} (h : Steady ops owner ρ)
    {f : Formula} {g : Value → Truth}
    (hf : ∀ σ, f.truth ops db { ρ with scope := σ } = g (σ.cell rows.valueCell)) :
    (Formula.existence rows.subquery (.and (rows.tie owner) f)).truth ops db ρ =
      .ofBool ((rows.values ops db (owner.value ops ρ)).any fun v => g v = .holds) := by
  simp only [Formula.truth, values_eq rows ρ.scope, List.any_map, List.any_filter]
  congr 1
  rw [Bool.eq_iff_iff]
  simp only [List.any_eq_true, Function.comp_apply, Bool.and_eq_true, decide_eq_true_eq,
    Truth.and_eq_holds, hf]
  constructor
  · rintro ⟨σ, hσ, htie, hg⟩
    exact ⟨σ, hσ, truth_tie h hσ ▸ htie, hg⟩
  · rintro ⟨σ, hσ, htie, hg⟩
    exact ⟨σ, hσ, (truth_tie h hσ).symm ▸ htie, hg⟩

theorem CollectionRows.truth_existence_tie (rows : CollectionRows) (h : Steady ops owner ρ) :
    (Formula.existence rows.subquery (rows.tie owner)).truth ops db ρ =
      .ofBool (!(rows.values ops db (owner.value ops ρ)).isEmpty) := by
  simp only [Formula.truth, values_eq rows ρ.scope]
  congr 1
  rw [Bool.eq_iff_iff]
  simp only [List.any_eq_true, decide_eq_true_eq, Bool.not_eq_true',
    List.isEmpty_eq_false_iff_exists_mem, List.mem_map, List.mem_filter]
  constructor
  · rintro ⟨σ, hσ, htie⟩
    exact ⟨_, σ, ⟨hσ, truth_tie h hσ ▸ htie⟩, rfl⟩
  · rintro ⟨_, σ, ⟨hσ, htie⟩, -⟩
    exact ⟨σ, hσ, (truth_tie h hσ).symm ▸ htie⟩

namespace Condition

variable {column : Mention → Operand}

theorem formulas_ne_nil {cs : List Condition} (h : cs ≠ []) : formulas column owner cs ≠ [] := by
  cases cs with
  | nil => exact absurd rfl h
  | cons c cs => simp [formulas]

mutual

theorem truth_formula (c : Condition) (hc : c.Proper) (h : Steady ops owner ρ) :
    (c.formula column owner).truth ops db ρ =
      c.truth ops db (owner.value ops ρ) fun m => (column m).value ops ρ := by
  cases c with
  | never => exact truth_never ρ
  | not c => rw [formula, truth, Formula.truth, truth_formula c hc h]
  | junction op operands =>
    rw [formula, truth, Connective.truth_formula op (formulas_ne_nil hc.1),
      truth_formulas operands hc.2 h]
  | isEmpty s =>
    cases s with
    | column m => rfl
    | collection path rows =>
      rw [formula, truth, Formula.truth, rows.truth_existence_tie h, Truth.not_ofBool,
        Bool.not_not]
  | test s t =>
    cases s with
    | column m => exact t.truth_formula (column m) hc.2 ρ
    | collection path rows =>
      rw [formula, truth]
      refine rows.truth_existence h fun σ => ?_
      rw [t.truth_formula _ hc.2, Operand.value]
  | itemIds chunks =>
    rw [formula, truth, truth_membership _ (by simpa using hc.1), List.map_flatten]

theorem truth_formulas (cs : List Condition) (hcs : ProperAll cs) (h : Steady ops owner ρ) :
    ((formulas column owner cs).map fun f => f.truth ops db ρ) =
      truths ops db (owner.value ops ρ) (fun m => (column m).value ops ρ) cs := by
  cases cs with
  | nil => rfl
  | cons c cs =>
    rw [formulas, truths, List.map_cons, truth_formula c hcs.1 h, truth_formulas cs hcs.2 h]

end

end Condition

end

end

end AspectQuery
