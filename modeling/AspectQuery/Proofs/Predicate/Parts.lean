import AspectQuery.Proofs.Predicate.Compiled
import AspectQuery.Proofs.Predicate.Meaning
/-!
# The parts of predicates

The parts of a predicate are read as a condition whose attributes and anchor are left open. For
every item its truth is the one that the filter prescribes; no parts at all are no restriction.
-/

set_option autoImplicit false

namespace AspectQuery

open Sql (Contents Formula Operand Operators Scope Referents Truth symbols)

namespace Part

/-- What stands in the place of a part, which fails for a parameter that is not there. -/
def symbols? (params : List Value) : Part → Option (List Sql.Symbol)
  | .sql text => some (symbols text)
  | .attribute index => some [.operand (.mention index)]
  | .param place => params[place]?.map fun v => [.operand (.constant v)]
  | .anchor => some [.operand .anchor]

def formula? (params : List Value) (ps : List Part) : Option Formula :=
  (ps.mapM (symbols? params)).bind fun ss => Sql.formula? [] ss.flatten

def truth? (ops : Operators) (db : Contents) (params : List Value) (ps : List Part)
    (ρ : Referents) : Option Truth :=
  if ps.isEmpty then some .holds else (formula? params ps).map fun f => f.truth ops db ρ

end Part

/-- The value of the mention of a number. -/
def ItemView.mentioned (item : ItemView) (ms : Mentions) (index : Nat) : Value :=
  match ms.get? index with
  | some m => item.bounded m.target
  | none => .null

namespace Wording

/-- The wording that leaves everything open but the values. -/
def parts : Wording where
  column m := .mention m.index
  owner := .anchor
  write
    | .sql text => symbols text
    | .column m => [.operand (.mention m.index)]
    | .value v => [.operand (.constant v)]
    | .anchor => [.operand .anchor]
  values _ := []
  write_sql _ := rfl
  values_sql _ := rfl
  spells_column _ := ⟨_, rfl, rfl⟩
  spells_value _ := ⟨_, rfl, rfl⟩
  spells_anchor := ⟨_, rfl, rfl⟩

variable {w : Wording} {ss : List Segment} {f : Formula}

theorem Means.formula? (h : w.Means ss f) :
    Sql.formula? (ss.flatMap w.values) (ss.flatMap w.write) = some f := by
  obtain ⟨ls, ⟨raw, hraw, hsupply⟩, hls⟩ := h
  simp only [Sql.formula?, hraw, Option.bind_eq_bind, Option.bind_some, hsupply]
  exact hls.all.formula

theorem Means.write_ne_nil (h : w.Means ss f) : ss.flatMap w.write ≠ [] := by
  intro hwrite
  have hnil := h.formula?
  rw [hwrite] at hnil
  cases hvalues : ss.flatMap w.values <;>
    simp [hvalues, Sql.formula?, Sql.lexemes?, Sql.scan, Sql.Mode.finish?, Sql.supply,
      Sql.readOperand] at hnil

theorem Means.ne_nil (h : w.Means ss f) : ss ≠ [] := by
  rintro rfl
  exact h.write_ne_nil rfl

end Wording

namespace Segment

/-- Every parameter is found in its place, behind those before it. -/
theorem mapM_symbols?_number (before : List Value) (ss : List Segment) :
    (number before.length ss).mapM (Part.symbols? (before ++ params ss)) =
      some (ss.map Wording.parts.write) := by
  induction ss generalizing before with
  | nil => rfl
  | cons s ss ih =>
    cases s with
    | value v =>
      have hrest := ih (before ++ [v])
      simp only [List.length_append, List.length_singleton, List.append_assoc,
        List.singleton_append] at hrest
      have hparam : (before ++ v :: params ss)[before.length]? = some v := by simp
      have hparams : params (.value v :: ss) = v :: params ss := rfl
      rw [number, hparams, List.mapM_cons, Part.symbols?, hparam, hrest]
      rfl
    | sql text =>
      have hparams : params (.sql text :: ss) = params ss := rfl
      rw [number, hparams, List.mapM_cons, ih]
      rfl
    | column m =>
      have hparams : params (.column m :: ss) = params ss := rfl
      rw [number, hparams, List.mapM_cons, ih]
      rfl
    | anchor =>
      have hparams : params (.anchor :: ss) = params ss := rfl
      rw [number, hparams, List.mapM_cons, ih]
      rfl

theorem isEmpty_number (n : Nat) (ss : List Segment) : (number n ss).isEmpty = ss.isEmpty := by
  cases ss with
  | nil => rfl
  | cons s ss => cases s <;> rfl

end Segment

theorem Sql.steady_anchor (ops : Operators) (ρ : Referents) : Steady ops .anchor ρ :=
  fun _ _ => rfl

namespace Condition

variable {ops : Operators} {db : Contents}

mutual

theorem truth_congr {id : Value} {column column' : Mention → Value} (c : Condition)
    (h : ∀ m ∈ c.mentions, column m = column' m) :
    c.truth ops db id column = c.truth ops db id column' := by
  cases c with
  | never => rfl
  | not c => rw [truth, truth, truth_congr c h]
  | junction op operands => rw [truth, truth, truths_congr operands h]
  | isEmpty s =>
    cases s with
    | column m => rw [truth, truth, h m (by simp [mentions, Subject.mentions])]
    | collection path rows => rfl
  | test s t =>
    cases s with
    | column m => rw [truth, truth, h m (by simp [mentions, Subject.mentions])]
    | collection path rows => rfl
  | itemIds chunks => rfl

theorem truths_congr {id : Value} {column column' : Mention → Value} (cs : List Condition)
    (h : ∀ m ∈ mentionsOfAll cs, column m = column' m) :
    truths ops db id column cs = truths ops db id column' cs := by
  cases cs with
  | nil => rfl
  | cons c cs =>
    simp only [mentionsOfAll, List.mem_append] at h
    rw [truths, truths, truth_congr c fun m hm => h m (.inl hm),
      truths_congr cs fun m hm => h m (.inr hm)]

end

end Condition

namespace Predicate

variable {schema : Schema} {options : Options} {ms : Mentions} {p : Predicate}

theorem truth?_parts_of_compiled (hp : p.Compiled schema ms) (ops : Operators) (db : Contents)
    (item : ItemView) (σ : Scope) :
    Part.truth? ops db p.params p.parts ⟨σ, item.mentioned ms, item.id⟩ =
      some (p.truth ops db item.id fun m => item.bounded m.target) := by
  obtain ⟨_ | c⟩ := p
  · rfl
  · obtain ⟨hproper, hknown⟩ := hp c rfl
    have hmeans := c.means Wording.parts hproper
    have hnumber := Segment.mapM_symbols?_number [] c.segments
    have hformula := hmeans.formula?
    have hvalues : c.segments.flatMap Wording.parts.values = [] := by simp [Wording.parts]
    have hempty : c.segments.isEmpty = false := List.isEmpty_eq_false_iff.mpr hmeans.ne_nil
    rw [hvalues, List.flatMap_def] at hformula
    simp only [List.nil_append, List.length_nil] at hnumber
    simp only [Part.truth?, parts, params, segments, Option.map_some, Option.getD_some,
      Segment.isEmpty_number, hempty, Part.formula?, hnumber, Option.bind_some, hformula]
    have hsteady := Sql.steady_anchor ops ⟨σ, item.mentioned ms, item.id⟩
    refine congrArg some ((c.truth_formula hproper hsteady).trans (c.truth_congr fun m hm => ?_))
    simp only [Wording.parts, Operand.value, ItemView.mentioned, (hknown m hm).get?]

/-- Whatever a filter is compiled to, its parts have the truth that the filter prescribes. -/
theorem truth?_parts {d : SchemaDefinition} {naming : Naming} {filter : Option Filter}
    {ms' : Mentions} (hschema : Schema.ofDefinition d naming = .ok schema)
    (h : ofFilter? schema options filter ms = .ok (p, ms')) (ops : Operators) (db : Contents)
    (item : ItemView) (σ : Scope) :
    Part.truth? ops db p.params p.parts ⟨σ, item.mentioned ms', item.id⟩ =
      some (Filter.truth? ops db schema item filter) := by
  have hproper := Schema.proper_of_ofDefinition hschema
  rw [truth?_parts_of_compiled (compiled_ofFilter? hproper h).1, truth_ofFilter? h]

/-- Films with a title and with genres that they share. -/
def films : SchemaDefinition where
  aspects := [{
    id := "film"
    attributes := [
      { name := "title", cardinality := .inline, valueType := .string },
      { name := "genre", cardinality := .manyToMany, valueType := .string }] }]

def filmSchema : Schema := (Schema.ofDefinition films {}).toOption.getD {}

/-- Not a drama, or of a title and no further restriction. -/
def filmFilter : Filter :=
  .combine .or [
    .not (.among ⟨"film", "genre"⟩ [.text "drama"]),
    .combine .and [.relational ⟨"film", "title"⟩ .eq (.text "Alien"), .combine .or []]]

theorem truth?_parts_films : Schema.ofDefinition films {} = .ok filmSchema ∧
    ∃ p ms, ofFilter? filmSchema {} (some filmFilter) {} = .ok (p, ms) ∧
      ∀ (ops : Operators) (db : Contents) (item : ItemView) (σ : Scope),
        Part.truth? ops db p.params p.parts ⟨σ, item.mentioned ms, item.id⟩ =
          some (filmFilter.truth ops db filmSchema item) := by
  have hschema : Schema.ofDefinition films {} = .ok filmSchema := rfl
  obtain ⟨⟨p, ms⟩, hp⟩ : ∃ r, ofFilter? filmSchema {} (some filmFilter) {} = .ok r := ⟨_, rfl⟩
  exact ⟨hschema, p, ms, hp, truth?_parts hschema hp⟩

end Predicate

end AspectQuery
