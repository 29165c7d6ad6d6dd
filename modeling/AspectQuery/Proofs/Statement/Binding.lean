import AspectQuery.Proofs.Predicate.Parameters
import AspectQuery.Proofs.Predicate.Parts
import AspectQuery.Proofs.Scope.Plan
import AspectQuery.Statement
/-!
# Predicates in statements

In a statement the columns of mentions and the anchor stand for what a predicate leaves open, and a
question mark stands for each value.
-/

set_option autoImplicit false

namespace AspectQuery

open Sql (Column Contents Formula Operand Operators Record Scope Referents Truth isIdentifier
  symbols)

namespace Segment

def column? : Segment → Option Mention
  | .column m => some m
  | _ => none

/-- The mentions, in the order of their columns. -/
def columns (ss : List Segment) : List Mention := ss.filterMap column?

theorem mem_columns {ss : List Segment} {m : Mention} : m ∈ columns ss ↔ .column m ∈ ss := by
  rw [columns, List.mem_filterMap]
  constructor
  · rintro ⟨s, hs, hm⟩
    cases s with
    | column m' => exact Option.some.inj hm ▸ hs
    | _ => cases hm
  · exact fun h => ⟨_, h, rfl⟩

@[simp] theorem columns_nil : columns [] = [] := rfl

@[simp] theorem columns_sql (text : String) (ss : List Segment) :
    columns (.sql text :: ss) = columns ss := rfl

@[simp] theorem columns_anchor (ss : List Segment) : columns (.anchor :: ss) = columns ss := rfl

@[simp] theorem columns_append (ss ts : List Segment) :
    columns (ss ++ ts) = columns ss ++ columns ts := List.filterMap_append

theorem columns_separated (separator : String) (sss : List (List Segment)) :
    columns (separated separator sss) = sss.flatMap columns :=
  filterMap_separated (fun _ => rfl) separator sss

/-- The operand is a column once for each list of values. -/
theorem columns_test (x : Segment) (t : Test) :
    columns (t.segments x) = t.lists.flatMap fun _ => (column? x).toList := by
  rw [columns, filterMap_test fun _ => rfl]
  simp [column?]

end Segment

namespace Condition

open Segment (columns)

theorem columns_not (c : Condition) : columns (not c).segments = columns c.segments := by
  simp [segments]

theorem columns_junction (op : Connective) (cs : List Condition) :
    columns (junction op cs).segments = cs.flatMap fun c => columns c.segments := by
  simp [segments, Segment.columns_separated, segmentsOfAll_eq, List.flatMap_map]

theorem columns_isEmpty (s : Subject) : columns (isEmpty s).segments = s.mentions := by
  cases s <;> rfl

theorem columns_test (s : Subject) (t : Test) :
    columns (test s t).segments = t.lists.flatMap fun _ => s.mentions := by
  cases s with
  | column m => exact Segment.columns_test (.column m) t
  | collection path rows =>
    simp [segments, Segment.columns_test, Segment.column?, Subject.mentions]

theorem columns_itemIds (chunks : List (List ItemId)) : columns (itemIds chunks).segments = [] := by
  rw [segments, columns, Segment.filterMap_membership fun _ => rfl]
  simp [Segment.column?]

mutual

theorem columns_subset (c : Condition) : columns c.segments ⊆ c.mentions := by
  cases c with
  | never => exact List.nil_subset _
  | not c => exact c.columns_not ▸ columns_subset c
  | junction op operands =>
    exact columns_junction op operands ▸ columns_subset_mentionsOfAll operands
  | isEmpty s => exact columns_isEmpty s ▸ List.Subset.refl _
  | test s t =>
    intro m hm
    rw [columns_test] at hm
    obtain ⟨-, -, hm⟩ := List.mem_flatMap.mp hm
    exact hm
  | itemIds chunks => exact columns_itemIds chunks ▸ List.nil_subset _

theorem columns_subset_mentionsOfAll (cs : List Condition) :
    (cs.flatMap fun c => columns c.segments) ⊆ mentionsOfAll cs := by
  cases cs with
  | nil => exact List.nil_subset _
  | cons c cs =>
    exact List.append_subset.mpr ⟨List.subset_append_of_subset_left _ (columns_subset c),
      List.subset_append_of_subset_right _ (columns_subset_mentionsOfAll cs)⟩

end

theorem column_mem_segments {m : Mention} (c : Condition) (h : .column m ∈ c.segments) :
    m ∈ c.mentions := c.columns_subset (Segment.mem_columns.mpr h)

end Condition

namespace JoinPlan

/-- The statement has a column for a mention. -/
def Finds (p : JoinPlan) (m : Mention) (c : Column) : Prop :=
  ∃ d, p.column? m = some d ∧ p.tables.qualify d = .ok c

/-- The column of a mention in the statement; some other column where the plan has none for it. -/
def cell (p : JoinPlan) (m : Mention) : Column :=
  match (p.column? m).bind fun c => (p.tables.qualify c).toOption with
  | some c => if isIdentifier c.qualifier && isIdentifier c.name then c else ⟨"T", "A"⟩
  | none => ⟨"T", "A"⟩

theorem isIdentifier_cell (p : JoinPlan) (m : Mention) :
    isIdentifier (p.cell m).qualifier ∧ isIdentifier (p.cell m).name := by
  unfold cell
  split
  · split
    · rename_i h
      exact (Bool.and_eq_true ..).mp h
    · exact ⟨rfl, rfl⟩
  · exact ⟨rfl, rfl⟩

/-- What is written for a segment. -/
def boundText (p : JoinPlan) (anchor : Column) : Segment → String
  | .sql text => text
  | .column m => (p.cell m).text
  | .value _ => "?"
  | .anchor => anchor.text

section

variable {ops : Operators} {db : Contents} {schema : Schema} {ms : Mentions} {base : String}
  {anchor : ColumnRef} {kept : Record → Bool} {p : JoinPlan}

/-- A column of the plan that holds the value of an attribute stands in the statement under an alias
of its table. -/
theorem Fits.cell_eq (h : p.Fits ops db schema ms base anchor kept) {m : Mention} {c : ColumnRef}
    (hm : m.Known schema ms) (hc : p.column? m = some c) :
    p.tables.qualify c = .ok (p.cell m) ∧
      ∃ i ∈ p.tables.instances, p.cell m = ⟨i.aliasName, c.column⟩ ∧
        ∀ r ∈ db base, records db schema r i.purpose c.column =
          stored db schema (r schema.naming.itemIdColumn) m.target := by
  obtain ⟨i, hi, hid, hcolumn, hvalue⟩ := h.columns m c hm hc
  have hqualify := Tables.qualify_of_mem h.sound hi c.column
  rw [hid] at hqualify
  have halias := (h.sound.aliases.isAlias _ (h.sound.used i hi)).isIdentifier
  have hcell : p.cell m = ⟨i.aliasName, c.column⟩ := by
    simp [cell, hc, hqualify, Except.toOption, halias, hcolumn]
  exact ⟨hcell ▸ hqualify, i, hi, hcell, hvalue⟩

theorem Fits.bind_eq (h : p.Fits ops db schema ms base anchor kept) (column : Column)
    {predicate : Predicate} (hp : predicate.Compiled schema ms)
    (hcolumns : ∀ m ∈ predicate.mentions, ∃ c, p.column? m = some c) :
    p.bind column predicate =
      .ok ⟨String.join (predicate.segments.map (p.boundText column)), predicate.params⟩ := by
  have hmap : ∀ s ∈ predicate.segments, p.segmentText column s = .ok (p.boundText column s) := by
    intro s hs
    cases s with
    | column m =>
      have hmem : m ∈ predicate.mentions ∧ m.Known schema ms := by
        obtain ⟨_ | c⟩ := predicate
        · simp [Predicate.segments] at hs
        · have hmention := c.column_mem_segments hs
          exact ⟨hmention, (hp c rfl).known m hmention⟩
      obtain ⟨c, hc⟩ := hcolumns m hmem.1
      obtain ⟨hqualify, -⟩ := h.cell_eq hmem.2 hc
      simp [segmentText, boundText, hc, hqualify]
    | _ => rfl
  simp only [JoinPlan.bind, mapM_eq_ok_map hmap]
  rfl

end

end JoinPlan

/-- The wording of predicates in the statement of a plan. -/
def Wording.bound (p : JoinPlan) (anchor : Column) (hq : isIdentifier anchor.qualifier)
    (hn : isIdentifier anchor.name) : Wording where
  column m := .cell (p.cell m)
  owner := .cell anchor
  write s := symbols (p.boundText anchor s)
  values s := s.value?.toList
  write_sql _ := rfl
  values_sql _ := rfl
  spells_column m := .cell (p.isIdentifier_cell m).1 (p.isIdentifier_cell m).2
  spells_value v := show Sql.Spells [v] (symbols "?") _ from ⟨[.placeholder], rfl, rfl⟩
  spells_anchor := .cell hq hn

theorem symbols_join (texts : List String) :
    symbols (String.join texts) = texts.flatMap symbols := by
  simp only [symbols, String.toList_join, List.map_flatMap]
  rfl

end AspectQuery
