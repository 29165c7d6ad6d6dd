import AspectQuery.Proofs.Predicate.Formula
import AspectQuery.Proofs.Sql.Outside
/-!
# The shape of conditions

Whatever stands for the columns, a condition is written with closed literals and parentheses in
pairs, and a question mark for each of its values and nowhere else.
-/

set_option autoImplicit false

namespace AspectQuery

open Sql (Level Shaped isIdentifier)

/-- Segments are written with a question mark for each value, and columns without any. -/
structure Writing (write : Segment → String) : Prop where
  sql : ∀ text, write (.sql text) = text
  value : ∀ v, write (.value v) = "?"
  column : ∀ m, Level (write (.column m)) 0
  anchor : Level (write .anchor) 0

/-- What segments are written to, with a question mark for each value and nowhere else. -/
structure Neat (write : Segment → String) (closing opening : Nat) (ss : List Segment) : Prop where
  shaped : Shaped (String.join (ss.map write)) closing opening (Segment.params ss).length
  pieces : ∀ s ∈ ss, s.value? = none → ∃ a b, Shaped (write s) a b 0

namespace Neat

variable {write : Segment → String} {ss ts : List Segment} {a b c d : Nat}

theorem nil (write : Segment → String) : Neat write 0 0 [] :=
  ⟨Shaped.empty, by simp⟩

theorem append (hss : Neat write a b ss) (hts : Neat write c d ts) :
    Neat write (a + (c - b)) (d + (b - c)) (ss ++ ts) := by
  refine ⟨?_, fun s hs => ?_⟩
  · rw [List.map_append, String.join_append, Segment.params, List.filterMap_append,
      List.length_append]
    exact hss.shaped.append hts.shaped
  · rcases List.mem_append.mp hs with hs | hs
    · exact hss.pieces s hs
    · exact hts.pieces s hs

theorem sql (hwrite : Writing write) {text : String} (h : Shaped text a b 0) :
    Neat write a b [.sql text] := by
  rw [← hwrite.sql text] at h
  refine ⟨?_, fun s hs _ => ?_⟩
  · simp only [List.map_cons, List.map_nil, String.join_cons, String.join_nil, String.append_empty]
    exact h
  · rw [List.mem_singleton.mp hs]
    exact ⟨a, b, h⟩

theorem operand {x : Segment} (hvalue : x.value? = none) (h : Level (write x) 0) :
    Neat write 0 0 [x] := by
  refine ⟨?_, fun s hs _ => ?_⟩
  · simp only [List.map_cons, List.map_nil, String.join_cons, String.join_nil, String.append_empty,
      Segment.params, List.filterMap_cons, hvalue]
    exact h
  · rw [List.mem_singleton.mp hs]
    exact ⟨0, 0, h⟩

theorem value (hwrite : Writing write) (v : Value) : Neat write 0 0 [.value v] := by
  refine ⟨?_, fun s hs hnone => ?_⟩
  · simp only [List.map_cons, List.map_nil, String.join_cons, String.join_nil, String.append_empty,
      hwrite.value]
    exact .of_all rfl rfl rfl rfl
  · rw [List.mem_singleton.mp hs] at hnone
    simp [Segment.value?] at hnone

theorem enclose (hwrite : Writing write) {before behind : String} (hbefore : Shaped before 0 1 0)
    (hss : Neat write 0 0 ss) (hbehind : Shaped behind 1 0 0) :
    Neat write 0 0 (.sql before :: ss ++ [.sql behind]) :=
  ((sql hwrite hbefore).append hss).append (sql hwrite hbehind)

theorem separated (hwrite : Writing write) {separator : String} (hseparator : Level separator 0)
    {sss : List (List Segment)} (h : ∀ ss ∈ sss, Neat write 0 0 ss) :
    Neat write 0 0 (Segment.separated separator sss) := by
  induction sss with
  | nil => exact nil write
  | cons ss rest ih =>
    cases rest with
    | nil => exact h ss List.mem_cons_self
    | cons ts rest =>
      have hrest := ih fun us hus => h us (List.mem_cons_of_mem ss hus)
      exact (h ss List.mem_cons_self).append ((sql hwrite hseparator).append hrest)

theorem grouped (hwrite : Writing write) {separator : String} (hseparator : Level separator 0)
    {sss : List (List Segment)} (h : ∀ ss ∈ sss, Neat write 0 0 ss) :
    Neat write 0 0 (Segment.grouped separator sss) := by
  unfold Segment.grouped
  split
  · rename_i ss
    exact h ss (List.mem_singleton_self ss)
  · exact enclose hwrite (.of_all rfl rfl rfl rfl) (separated hwrite hseparator h)
      (.of_all rfl rfl rfl rfl)

theorem level_connective (op : Connective) : Level op.sql 0 := by
  cases op <;> exact .of_all rfl rfl rfl rfl

theorem membership (hwrite : Writing write) {x : Segment} (hx : Neat write 0 0 [x])
    (chunks : List (List Value)) : Neat write 0 0 (Segment.membership x chunks) := by
  refine grouped hwrite (level_connective .or) fun ss hss => ?_
  obtain ⟨vs, -, rfl⟩ := List.mem_map.mp hss
  have hvalues : Neat write 0 0 (Segment.separated ", " (vs.map fun v => [.value v])) := by
    refine separated hwrite (.of_all rfl rfl rfl rfl) fun ts hts => ?_
    obtain ⟨v, -, rfl⟩ := List.mem_map.mp hts
    exact value hwrite v
  have hopen : Shaped " IN (" 0 1 0 := .of_all rfl rfl rfl rfl
  have hclose : Shaped ")" 1 0 0 := .of_all rfl rfl rfl rfl
  exact hx.append (enclose hwrite hopen hvalues hclose)

theorem escape (hwrite : Writing write) (escape : Option Char) :
    Neat write 0 0 (Test.escapeSegments escape) := by
  cases escape with
  | none => exact nil write
  | some c =>
    have hescape : Level " ESCAPE " 0 := .of_all rfl rfl rfl rfl
    exact sql hwrite (hescape.append (Sql.level_quote _))

theorem between (hwrite : Writing write) {x : Segment} (hx : Neat write 0 0 [x]) {text : String}
    (htext : Level text 0) (v : Value) : Neat write 0 0 [x, .sql text, .value v] :=
  hx.append ((sql hwrite htext).append (value hwrite v))

theorem level_relation (op : Relation) : Level (" " ++ op.sql ++ " ") 0 := by
  cases op <;> exact .of_all rfl rfl rfl rfl

theorem test (hwrite : Writing write) {x : Segment} (hx : Neat write 0 0 [x]) (t : Test) :
    Neat write 0 0 (t.segments x) := by
  cases t with
  | relational op v => exact between hwrite hx (level_relation op) v
  | like pattern escapeChar caseSensitive =>
    cases caseSensitive with
    | true =>
      have hlike : Level " LIKE " 0 := .of_all rfl rfl rfl rfl
      exact (between hwrite hx hlike (.text pattern)).append (escape hwrite escapeChar)
    | false =>
      have hupper : Shaped "UPPER(" 0 1 0 := .of_all rfl rfl rfl rfl
      have hlike : Shaped ") LIKE UPPER(" 1 1 0 := .of_all rfl rfl rfl rfl
      have hclose : Shaped ")" 1 0 0 := .of_all rfl rfl rfl rfl
      have hoperand : Neat write 0 1 [.sql "UPPER(", x] := (sql hwrite hupper).append hx
      have hpattern :
          Neat write 0 1 [.sql "UPPER(", x, .sql ") LIKE UPPER(", .value (.text pattern)] :=
        hoperand.append ((sql hwrite hlike).append (value hwrite (.text pattern)))
      exact (hpattern.append (sql hwrite hclose)).append (escape hwrite escapeChar)
  | similarTo pattern escapeChar =>
    have hsimilar : Level " SIMILAR TO " 0 := .of_all rfl rfl rfl rfl
    exact (between hwrite hx hsimilar (.text pattern)).append (escape hwrite escapeChar)
  | between low high =>
    have hbetween : Level " BETWEEN " 0 := .of_all rfl rfl rfl rfl
    have hand : Level " AND " 0 := .of_all rfl rfl rfl rfl
    exact (between hwrite hx hbetween low).append ((sql hwrite hand).append (value hwrite high))
  | among chunks => exact membership hwrite hx chunks

end Neat

namespace CollectionRows

theorem shaped_existence {rows : CollectionRows} (h : rows.Plain) :
    Shaped rows.existence 0 1 0 := by
  cases rows with
  | direct table itemId value =>
    obtain ⟨htable, hitem, -⟩ := h
    have h₁ : Shaped "EXISTS(SELECT VAL." 0 1 0 := .of_all rfl rfl rfl rfl
    have h₂ : Level " FROM " 0 := .of_all rfl rfl rfl rfl
    have h₃ : Level " VAL WHERE VAL." 0 := .of_all rfl rfl rfl rfl
    have h₄ : Level " = " 0 := .of_all rfl rfl rfl rfl
    have hitem := Sql.level_identifier hitem
    exact (((((h₁.append hitem).append h₂).append (Sql.level_identifier htable)).append h₃).append
      hitem).append h₄
  | shared junction values itemId valueId value =>
    obtain ⟨hjunction, hvalues, hitem, hvalueId, -⟩ := h
    have h₁ : Shaped "EXISTS(SELECT NM." 0 1 0 := .of_all rfl rfl rfl rfl
    have h₂ : Level " FROM " 0 := .of_all rfl rfl rfl rfl
    have h₃ : Level " NM INNER JOIN " 0 := .of_all rfl rfl rfl rfl
    have h₄ : Level " VAL ON NM." 0 := .of_all rfl rfl rfl rfl
    have h₅ : Level " = VAL." 0 := .of_all rfl rfl rfl rfl
    have h₆ : Level " WHERE NM." 0 := .of_all rfl rfl rfl rfl
    have h₇ : Level " = " 0 := .of_all rfl rfl rfl rfl
    have hitem := Sql.level_identifier hitem
    have hvalueId := Sql.level_identifier hvalueId
    have hfrom := (((h₁.append hitem).append h₂).append (Sql.level_identifier hjunction)).append h₃
    have hjoin := ((hfrom.append (Sql.level_identifier hvalues)).append h₄).append hvalueId
    exact ((((hjoin.append h₅).append hvalueId).append h₆).append hitem).append h₇

theorem level_valueColumn {rows : CollectionRows} (h : rows.Plain) : Level rows.valueColumn 0 := by
  have hvalue : ∀ value, isIdentifier value → Level ("VAL." ++ value) 0 := by
    intro value h
    have hval : Level "VAL." 0 := .of_all rfl rfl rfl rfl
    exact hval.append (Sql.level_identifier h)
  cases rows with
  | direct table itemId value => exact hvalue value h.2.2
  | shared junction values itemId valueId value => exact hvalue value h.2.2.2.2

end CollectionRows

namespace Condition

variable {write : Segment → String}

mutual

theorem neat (hwrite : Writing write) (c : Condition) (hc : c.Proper) :
    Neat write 0 0 c.segments := by
  have hcolumn : ∀ m, Neat write 0 0 [.column m] := fun m => .operand rfl (hwrite.column m)
  have hanchor : Neat write 0 0 [.anchor] := .operand rfl hwrite.anchor
  have hclose : Shaped ")" 1 0 0 := .of_all rfl rfl rfl rfl
  cases c with
  | never => exact .sql hwrite (.of_all rfl rfl rfl rfl)
  | not c => exact .enclose hwrite (.of_all rfl rfl rfl rfl) (neat hwrite c hc) hclose
  | junction op operands =>
    exact .enclose hwrite (.of_all rfl rfl rfl rfl)
      (.separated hwrite (Neat.level_connective op) (neatAll hwrite operands hc.2)) hclose
  | isEmpty s =>
    cases s with
    | column m =>
      have hnull : Level " IS NULL" 0 := .of_all rfl rfl rfl rfl
      exact (hcolumn m).append (.sql hwrite hnull)
    | collection path rows =>
      have hnot : Level "NOT " 0 := .of_all rfl rfl rfl rfl
      exact .enclose hwrite (Shaped.append hnot (rows.shaped_existence hc)) hanchor
        (.of_all rfl rfl rfl rfl)
  | test s t =>
    cases s with
    | column m => exact .test hwrite (hcolumn m) t
    | collection path rows =>
      have hand : Level " AND " 0 := .of_all rfl rfl rfl rfl
      have htest := Neat.test hwrite (.sql hwrite (rows.level_valueColumn hc.1)) t
      have hbody := (hanchor.append (.sql hwrite hand)).append htest
      exact .enclose hwrite (rows.shaped_existence hc.1) hbody hclose
  | itemIds chunks => exact .membership hwrite hanchor _

theorem neatAll (hwrite : Writing write) (cs : List Condition) (hcs : ProperAll cs) :
    ∀ ss ∈ segmentsOfAll cs, Neat write 0 0 ss := by
  cases cs with
  | nil => simp [segmentsOfAll]
  | cons c cs =>
    intro ss hss
    rcases List.mem_cons.mp hss with rfl | hss
    · exact neat hwrite c hcs.1
    · exact neatAll hwrite cs hcs.2 ss hss

end

end Condition

end AspectQuery
