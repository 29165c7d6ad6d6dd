import AspectQuery.Proofs.Query.Building
import AspectQuery.Proofs.Statement.Scoping
/-!
# The statements of value queries

The distinct values and the numbers of items by value come from the same rows, in which each value
stands beside the id of its item. For a bounded attribute there is a row for each item, for a
collection one for each of its rows.
-/

set_option autoImplicit false

namespace AspectQuery

open AliasKey (tableStem columnStem)
open Sql (Column Contents Operators Record)

namespace JoinPlan

theorem outputAttributes_singleton {p : JoinPlan} {m : Mention} {c : Column} (h : p.Finds m c) :
    outputAttributes [m] [] p = .ok
      ([outputColumn c (p.allot (.mention m.index) columnStem).1],
        [(m.index, (p.allot (.mention m.index) columnStem).1)],
        (p.allot (.mention m.index) columnStem).2) := by
  obtain ⟨d, hd, hc⟩ := h
  simp only [outputAttributes, List.lookup_nil, hd, hc]
  rfl

end JoinPlan

namespace ValueQuery

/-- What both statements of a value query are made of. -/
structure Frame where
  plan : JoinPlan
  anchor : Column
  value : Column
  statement : Statement
  /-- The key under which values are selected. -/
  key : AliasKey

namespace Frame

variable (f : Frame)

def distinct : DistinctValueStatement where
  select := { f.statement.select with
    distinct := true
    outputs := [JoinPlan.outputColumn f.value (f.plan.allot f.key columnStem).1]
    orderBy := [{ column := f.value }] }
  params := f.statement.params
  value := (f.plan.allot f.key columnStem).1

/-- The plan with an output for the item. -/
def itemPlan : JoinPlan := (f.plan.allot .itemId columnStem).2

/-- The plan with outputs for the item and the value. -/
def pairPlan : JoinPlan := (f.itemPlan.allot f.key columnStem).2

def itemId : String := (f.plan.allot .itemId columnStem).1

def pairValue : String := (f.itemPlan.allot f.key columnStem).1

def derived : String := (f.pairPlan.allot .derived tableStem).1

def count : String := ((f.pairPlan.allot .derived tableStem).2.allot .count columnStem).1

/-- The different pairs of an item and a value. -/
def pairs : Sql.Select :=
  { f.statement.select with
    distinct := true
    outputs := [
      JoinPlan.outputColumn f.anchor f.itemId, JoinPlan.outputColumn f.value f.pairValue] }

def grouped : GroupedValueStatement where
  select := countBy f.pairs f.derived f.itemId f.count [f.pairValue]
  params := f.statement.params
  value := f.pairValue
  count := f.count

end Frame

section

variable {schema : Schema} {q : ValueQuery}

theorem statements_of_primary (hbounded : q.target.bounded = true) {f : Primary.Frame}
    (hframe : q.primary.frame q.schema q.predicate {} = .ok f) (horder : f.order = [])
    {c : Column} (hc : f.plan.Finds q.subject c) :
    let g : Frame := ⟨f.plan, f.anchor, c, f.statement, .mention q.subject.index⟩
    q.distinctStatement = .ok g.distinct ∧ q.groupedStatement = .ok g.grouped := by
  intro g
  have hlookup : ∀ a, q.valueAlias [(q.subject.index, a)] = .ok a := fun a =>
    valueAlias_of_lookup List.lookup_cons_self
  constructor
  · rw [distinctStatement_of_bounded hbounded]
    have hkeys : Primary.orderByAll (f.plan.allot (.mention q.subject.index) columnStem).2 f.order
        [q.subject] = .ok [{ column := c }] := by
      obtain ⟨d, hd, hd'⟩ := hc
      have hcolumn : (f.plan.allot (.mention q.subject.index) columnStem).2.column? q.subject =
          some d := hd
      have hqualify : (f.plan.allot (.mention q.subject.index) columnStem).2.tables.qualify d =
          .ok c := hd'
      rw [horder]
      simp only [Primary.orderByAll, List.foldlM_cons, List.foldlM_nil, hcolumn, hqualify]
      rfl
    have hdistinct : q.primary.distinct q.schema q.predicate {} = .ok (_, _) :=
      Primary.distinct_eq_ok_iff.mpr ⟨f, hframe, _, _, _, JoinPlan.outputAttributes_singleton hc, _,
        hkeys, rfl, rfl⟩
    exact bind_eq_ok.mpr ⟨_, hdistinct, bind_eq_ok.mpr ⟨_, hlookup _, rfl⟩⟩
  · rw [groupedStatement_of_bounded hbounded]
    have hc' : (f.plan.allot .itemId columnStem).2.Finds q.subject c := hc
    have hgrouped : q.primary.grouped q.schema q.predicate {} = .ok (_, _) :=
      Primary.grouped_eq_ok_iff.mpr ⟨f, hframe, _, _, _, JoinPlan.outputAttributes_singleton hc',
        rfl, rfl⟩
    have hnames : ∀ a : String, q.primary.select.filterMap
        (fun m => [(q.subject.index, a)].lookup m.index) = [a] := by
      intro a
      simp [primary]
    refine bind_eq_ok.mpr ⟨_, hgrouped, bind_eq_ok.mpr ⟨_, hlookup _, ?_⟩⟩
    simp only [hnames]
    rfl

theorem statements_of_collection (hbounded : q.target.bounded = false) {f : Collection.Frame}
    (hframe : Collection.frame q.schema q.predicate q.target q.necessary {} = .ok f) :
    let g : Frame := ⟨f.plan, f.anchor, f.value, f.statement, .value⟩
    q.distinctStatement = .ok g.distinct ∧ q.groupedStatement = .ok g.grouped := by
  intro g
  constructor
  · rw [distinctStatement_of_collection hbounded]
    have hdistinct : Collection.distinct q.schema q.predicate q.target q.necessary {} = .ok _ :=
      bind_eq_ok.mpr ⟨f, hframe, rfl⟩
    exact bind_eq_ok.mpr ⟨_, hdistinct, rfl⟩
  · rw [groupedStatement_of_collection hbounded]
    have hgrouped : Collection.grouped q.schema q.predicate q.target q.necessary {} = .ok _ :=
      bind_eq_ok.mpr ⟨f, hframe, rfl⟩
    exact bind_eq_ok.mpr ⟨_, hgrouped, rfl⟩

end

/-- The table whose rows have the values. -/
def base (q : ValueQuery) : String :=
  if q.target.bounded then Primary.baseTable q.schema q.necessary else q.target.collectionTable

/-- The rows that are looked at, whether or not the predicate holds for their items. -/
def keeps (db : Contents) (q : ValueQuery) (r : Record) : Bool :=
  if q.target.bounded then q.necessary.all (present db q.schema r)
  else Collection.keeps db q.schema q.target q.necessary r

/-- The value that a row of the base stands for. -/
def valueOf (db : Contents) (q : ValueQuery) (r : Record) : Value :=
  if q.target.bounded then stored db q.schema (r q.schema.naming.itemIdColumn) q.target
  else (q.target.rowValue? db q.schema.naming r).getD .null

/-- A frame whose plan finds the item and the value of each row of the base. -/
structure Frame.Fits (ops : Operators) (db : Contents) (ms : Mentions) (q : ValueQuery)
    (f : Frame) : Prop where
  plan : ∃ anchor, f.plan.Fits ops db q.schema ms q.base anchor (q.keeps db) ∧
    f.plan.tables.qualify anchor = .ok f.anchor
  tidy : f.plan.Tidy
  value : ∃ c, f.plan.tables.qualify c = .ok f.value
  cell : ∀ r ∈ db q.base,
    (f.plan.tables.scope (records db q.schema r)).cell f.value = q.valueOf db r
  key : f.key = .value ∨ ∃ n, f.key = .mention n
  predicate : q.predicate.Compiled q.schema ms
  mentions : ∀ m ∈ q.predicate.mentions, ∃ c, f.plan.column? m = some c
  statement : f.plan.statement f.anchor q.predicate = .ok f.statement

section

variable {ops : Operators} {db : Contents} {q : ValueQuery}

/-- Both statements of a compiled query are made of the same frame. -/
theorem Compiled.exists_frame (hs : q.schema.Proper) (h : q.Compiled q.schema)
    (hdb : db.Keyed ops q.schema) :
    ∃ (f : Frame) (ms : Mentions), q.distinctStatement = .ok f.distinct ∧
      q.groupedStatement = .ok f.grouped ∧ f.Fits ops db ms q := by
  cases hbounded : q.target.bounded with
  | true =>
    obtain ⟨ms, hknown⟩ := h.primary hbounded
    obtain ⟨f, hframe, hf⟩ := Primary.fits_frame hknown hdb hs Aliases.sound_empty
    have hsubject : q.subject ∈ q.primary.select := List.mem_singleton_self _
    have hm := hknown.select q.subject hsubject
    have hfinds := hf.finds hm (hf.select q.subject hsubject)
    obtain ⟨hdistinct, hgrouped⟩ := statements_of_primary hbounded hframe
      (by simp [hf.order, ValueQuery.primary]) hfinds
    refine ⟨_, ms, hdistinct, hgrouped, ?_, (Primary.tidy_frame hframe).plan, ?_, fun r hr => ?_,
      .inr ⟨_, rfl⟩, hknown.predicate, hf.mentions, hf.statement⟩
    · obtain ⟨anchor, hfits, hanchor⟩ := hf.plan
      rw [base, if_pos hbounded]
      exact ⟨anchor, hfits.congr fun r _ => (if_pos hbounded).symm, hanchor⟩
    · obtain ⟨c, -, hc⟩ := hfinds
      exact ⟨c, hc⟩
    · rw [base, if_pos hbounded] at hr
      rw [valueOf, if_pos hbounded]
      exact hf.cell_of_finds hm hfinds hr
  | false =>
    have hnot : ¬q.target.bounded = true := by simp [hbounded]
    obtain ⟨ms, hknown⟩ := h.collection hbounded
    obtain ⟨f, hframe, hf⟩ := Collection.fits_frame hknown hdb hs Aliases.sound_empty
    obtain ⟨hdistinct, hgrouped⟩ := statements_of_collection hbounded hframe
    obtain ⟨c, hc, -⟩ := Collection.value_of_frame hframe
    refine ⟨_, ms, hdistinct, hgrouped, ?_, (Collection.tidy_frame hframe).plan, ⟨c, hc⟩,
      fun r _ => ?_, .inl rfl, hknown.predicate, hf.mentions, hf.statement⟩
    · rw [base, if_neg hnot]
      exact ⟨_, hf.plan.congr fun r _ => (if_neg hnot).symm, hf.anchor⟩
    · rw [valueOf, if_neg hnot]
      exact hf.value r

end

end ValueQuery

end AspectQuery
