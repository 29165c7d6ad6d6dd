import AspectQuery.Predicate
import AspectQuery.Proofs.Predicate.Formula
import AspectQuery.Proofs.Sql.Grammar
import Mathlib.Data.List.Forall2
/-!
# The text of conditions is read as their formulas

A wording says how the columns, values and anchor that a text leaves open are written. Whatever the
wording, the text of a condition is read as the formula of the condition.
-/

set_option autoImplicit false

namespace AspectQuery

open Sql (Clause Formula Lexeme Operand Reads ReadsAll Subquery Symbol Unescaped symbols)

/-- How segments are written, the values of whose placeholders are known by their places. -/
structure Wording where
  column : Mention → Operand
  owner : Operand
  write : Segment → List Symbol
  values : Segment → List Value
  write_sql : ∀ text, write (.sql text) = symbols text
  values_sql : ∀ text, values (.sql text) = []
  spells_column : ∀ m,
    Sql.Spells (values (.column m)) (write (.column m)) [.operand (column m)]
  spells_value : ∀ v, Sql.Spells (values (.value v)) (write (.value v)) [.operand (.constant v)]
  spells_anchor : Sql.Spells (values .anchor) (write .anchor) [.operand owner]

namespace Wording

variable (w : Wording)

def Spells (ss : List Segment) (ls : List Lexeme) : Prop :=
  Sql.Spells (ss.flatMap w.values) (ss.flatMap w.write) ls

/-- A condition that an operator around it takes as one operand. -/
def Means (ss : List Segment) (f : Formula) : Prop := ∃ ls, w.Spells ss ls ∧ Reads ls f

/-- A condition that stands by itself or between parentheses. -/
def MeansAll (ss : List Segment) (c : Clause) : Prop := ∃ ls, w.Spells ss ls ∧ ReadsAll ls c

variable {w} {ss ts : List Segment} {ls ks tl : List Lexeme} {text : String} {f : Formula}
  {c : Clause}

theorem Spells.column (w : Wording) (m : Mention) :
    w.Spells [.column m] [.operand (w.column m)] := by
  simpa [Spells] using w.spells_column m

theorem Spells.value (w : Wording) (v : Value) :
    w.Spells [.value v] [.operand (.constant v)] := by
  simpa [Spells] using w.spells_value v

theorem Spells.anchor (w : Wording) : w.Spells [.anchor] [.operand w.owner] := by
  simpa [Spells] using w.spells_anchor

theorem Spells.sql (w : Wording) (htext : Sql.Spells [] (symbols text) tl) :
    w.Spells [.sql text] tl := by
  simpa [Spells, w.write_sql, w.values_sql] using htext

theorem Spells.opens (htext : Sql.Spells [] (symbols text) tl) (hend : Sql.sharpEnd text)
    (hss : w.Spells ss ls) : w.Spells (.sql text :: ss) (tl ++ ls) := by
  simpa [Spells, w.write_sql, w.values_sql] using Sql.Spells.opens htext hend hss

theorem Spells.closes (hss : w.Spells ss ls) (htext : Sql.Spells [] (symbols text) tl)
    (hstart : Sql.sharpStart text) : w.Spells (ss ++ [.sql text]) (ls ++ tl) := by
  simpa [Spells, w.write_sql, w.values_sql] using Sql.Spells.closes hss htext hstart

theorem Spells.joins (hss : w.Spells ss ls) (htext : Sql.Spells [] (symbols text) tl)
    (hstart : Sql.sharpStart text) (hend : Sql.sharpEnd text) (hts : w.Spells ts ks) :
    w.Spells (ss ++ .sql text :: ts) (ls ++ (tl ++ ks)) := by
  simpa [Spells, w.write_sql, w.values_sql] using Sql.Spells.joins hss htext hstart hend hts

theorem Means.all (h : w.Means ss f) : w.MeansAll ss ⟨none, f⟩ := by
  obtain ⟨ls, hss, hls⟩ := h
  exact ⟨ls, hss, hls.all⟩

theorem MeansAll.parens (h : w.MeansAll ss c) :
    w.Means (.sql "(" :: ss ++ [.sql ")"]) c.formula := by
  obtain ⟨ls, hss, hls⟩ := h
  exact ⟨_, Spells.closes (Spells.opens ⟨_, rfl, rfl⟩ rfl hss) ⟨_, rfl, rfl⟩ rfl, hls.parens⟩

theorem MeansAll.not (h : w.MeansAll ss c) :
    w.Means (.sql "NOT (" :: ss ++ [.sql ")"]) c.formula.not := by
  obtain ⟨ls, hss, hls⟩ := h
  exact ⟨_, Spells.closes (Spells.opens ⟨_, rfl, rfl⟩ rfl hss) ⟨_, rfl, rfl⟩ rfl, hls.parens.not⟩

end Wording

/-- A condition with one more operand of a connective behind it. -/
def Connective.extend : Connective → Clause → Formula → Clause
  | .and, c, g => c.and.close g
  | .or, c, g => c.or.close g

namespace Connective

theorem formula_foldl_extend (op : Connective) (f : Formula) (fs : List Formula) :
    (fs.foldl op.extend ⟨none, f⟩).formula = op.formula (f :: fs) := by
  cases op with
  | and =>
    show (fs.foldl Connective.and.extend ⟨none, f⟩).formula = fs.foldl .and f
    induction fs generalizing f with
    | nil => rfl
    | cons g fs ih => exact ih (.and f g)
  | or =>
    have hor : ∀ c : Clause, (fs.foldl Connective.or.extend c).formula =
        fs.foldl .or c.formula := by
      induction fs with
      | nil => exact fun _ => rfl
      | cons g fs ih => exact fun c => ih ⟨some c.formula, g⟩
    exact hor ⟨none, f⟩

end Connective

namespace Wording

variable {w : Wording} {ss : List Segment} {c : Clause}

/-- The operands of a connective behind the first one. -/
theorem MeansAll.extend (op : Connective) {sss : List (List Segment)} {fs : List Formula}
    (h : w.MeansAll ss c) (hsss : List.Forall₂ w.Means sss fs) :
    w.MeansAll (ss ++ sss.flatMap fun ts => .sql op.sql :: ts) (fs.foldl op.extend c) := by
  induction hsss generalizing ss c with
  | nil => simpa using h
  | @cons ts g sss fs hts _ ih =>
    obtain ⟨ls, hss, hls⟩ := h
    obtain ⟨ks, hts, hks⟩ := hts
    have hnext : w.MeansAll (ss ++ .sql op.sql :: ts) (op.extend c g) := by
      cases op with
      | and => exact ⟨_, hss.joins ⟨_, rfl, rfl⟩ rfl rfl hts, hls.and hks⟩
      | or => exact ⟨_, hss.joins ⟨_, rfl, rfl⟩ rfl rfl hts, hls.or hks⟩
    simpa using ih hnext

theorem separated_cons (separator : String) (ss : List Segment) (sss : List (List Segment)) :
    Segment.separated separator (ss :: sss) =
      ss ++ sss.flatMap fun ts => .sql separator :: ts := by
  induction sss generalizing ss with
  | nil => simp [Segment.separated]
  | cons ts sss ih => simp [Segment.separated, ih]

theorem meansAll_separated (op : Connective) {sss : List (List Segment)} {fs : List Formula}
    (hsss : List.Forall₂ w.Means sss fs) (hne : fs ≠ []) :
    ∃ c, w.MeansAll (Segment.separated op.sql sss) c ∧ c.formula = op.formula fs := by
  cases hsss with
  | nil => exact absurd rfl hne
  | @cons ss f sss fs hss hsss =>
    rw [separated_cons]
    exact ⟨_, hss.all.extend op hsss, op.formula_foldl_extend f fs⟩

theorem means_junction (op : Connective) {sss : List (List Segment)} {fs : List Formula}
    (hsss : List.Forall₂ w.Means sss fs) (hne : fs ≠ []) :
    w.Means (.sql "(" :: Segment.separated op.sql sss ++ [.sql ")"]) (op.formula fs) := by
  obtain ⟨c, hc, hformula⟩ := meansAll_separated op hsss hne
  rw [← hformula]
  exact hc.parens

theorem means_grouped (op : Connective) {sss : List (List Segment)} {fs : List Formula}
    (hsss : List.Forall₂ w.Means sss fs) (hne : fs ≠ []) :
    w.Means (Segment.grouped op.sql sss) (op.formula fs) := by
  cases hsss with
  | nil => exact absurd rfl hne
  | @cons ss f sss fs hss hsss =>
    cases hsss with
    | nil =>
      cases op with
      | and => exact hss
      | or => exact hss
    | cons hts hsss => exact means_junction op (.cons hss (.cons hts hsss)) (by simp)

end Wording

end AspectQuery
