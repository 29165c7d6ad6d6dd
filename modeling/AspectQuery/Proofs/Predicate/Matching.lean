import AspectQuery.Proofs.Predicate.Parts
import AspectQuery.Proofs.Sql.Like
/-!
# Filters that match patterns

A filter with a pattern holds for the items with a text that is like it. Where letter case does not
count, both are put into capitals, which a store does in its own way. Whatever the way is, the
filter holds for the items with a text whose capitals are like those of the pattern.
-/

set_option autoImplicit false

namespace AspectQuery

open Sql (Contents Operators Scope Truth)
open Pattern (inCapitals)

/-- Only texts are like a pattern, and the escape character is the one that is named. -/
def Pattern.likeTruth : Value → Value → Option String → Truth
  | .text text, .text pattern, none => .ofBool (like none pattern text)
  | .text text, .text pattern, some escape =>
    match escape.toList with
    | [e] => .ofBool (like (some e) pattern text)
    | _ => .unknown
  | _, _, _ => .unknown

def Pattern.upperValue (m : Char → List Char) : Value → Value
  | .text s => .text (inCapitals m s)
  | v => v

/-- Operators that read patterns as they are written, and put every character into its capitals. -/
def Sql.Operators.withCapitals (ops : Operators) (m : Char → List Char) : Operators :=
  { ops with like := Pattern.likeTruth, upper := Pattern.upperValue m }

section

variable {ops : Operators} {db : Contents} {schema : Schema} {path : AttributePath}
  {target : Attribute}

/-- The values of an attribute, of which a bounded one has a single one. -/
def ItemView.values (ops : Operators) (db : Contents) (naming : Naming) (item : ItemView)
    (target : Attribute) : List Value :=
  if target.bounded then [item.bounded target] else target.collected ops db naming item.id

theorem testTruth_eq_holds (hpath : schema.lookup path = .ok target) (item : ItemView)
    (test : Attribute → Value → Truth) :
    testTruth ops db schema item path test = .holds ↔
      ∃ v ∈ item.values ops db schema.naming target, test target v = .holds := by
  simp only [testTruth, hpath, ItemView.values]
  split
  · simp
  · rw [Truth.ofBool_eq_holds, List.any_eq_true]
    simp only [decide_eq_true_eq]

/-- A text as it is compared, in capitals unless letter case counts. -/
def Pattern.compared (m : Char → List Char) (caseSensitive : Bool) (s : String) : String :=
  if caseSensitive then s else inCapitals m s

theorem patternTruth_withCapitals (m : Char → List Char) (pattern : String) (e : Char)
    (caseSensitive : Bool) (v : Value) :
    patternTruth (ops.withCapitals m) pattern (some e) caseSensitive v = .holds ↔
      ∃ s, v = .text s ∧ Pattern.like (some e) (Pattern.compared m caseSensitive pattern)
        (Pattern.compared m caseSensitive s) := by
  have hescape : (String.singleton e).toList = [e] := String.toList_singleton e
  cases v with
  | text s =>
    cases caseSensitive <;>
      simp [patternTruth, Operators.withCapitals, Pattern.likeTruth, Pattern.upperValue,
        Pattern.compared, hescape, Truth.ofBool_eq_holds]
  | _ => simp [patternTruth, Operators.withCapitals, Pattern.likeTruth, Pattern.upperValue]

theorem Predicate.ofFilter_like (hpath : schema.lookup path = .ok target) (options : Options)
    (pattern : String) (e : Char) (caseSensitive : Bool) (ms : Mentions) :
    ∃ p ms', ofFilter schema options (.like path pattern (some e) caseSensitive) ms =
      .ok (p, ms') := by
  rw [ofFilter]
  exact ⟨_, _, comparing_eq_ok_iff.mpr ⟨target, _, hpath, rfl, rfl, rfl⟩⟩

/-- The filter can be compiled. It holds for an item one of whose texts is like the pattern. -/
theorem Predicate.holds_like (hschema : schema.Proper) (hpath : schema.lookup path = .ok target)
    (options : Options) (pattern : String) (e : Char) (caseSensitive : Bool) (ms : Mentions) :
    ∃ p ms', ofFilter schema options (.like path pattern (some e) caseSensitive) ms = .ok (p, ms') ∧
      ∀ (ops : Operators) (db : Contents) (m : Char → List Char) (item : ItemView) (σ : Scope),
        Part.truth? (ops.withCapitals m) db p.params p.parts ⟨σ, item.mentioned ms', item.id⟩ =
            some .holds ↔
          ∃ s, .text s ∈ item.values (ops.withCapitals m) db schema.naming target ∧
            Pattern.like (some e) (Pattern.compared m caseSensitive pattern)
              (Pattern.compared m caseSensitive s) := by
  obtain ⟨p, ms', hp⟩ := ofFilter_like hpath options pattern e caseSensitive ms
  refine ⟨p, ms', hp, fun ops db m item σ => ?_⟩
  rw [truth?_parts_of_compiled (compiled_ofFilter hschema _ hp).1, truth_ofFilter _ hp,
    Option.some.injEq, Filter.truth, testTruth_eq_holds hpath]
  constructor
  · rintro ⟨v, hv, hholds⟩
    obtain ⟨s, rfl, hlike⟩ := (patternTruth_withCapitals m pattern e caseSensitive v).mp hholds
    exact ⟨s, hv, hlike⟩
  · rintro ⟨s, hs, hlike⟩
    exact ⟨.text s, hs,
      (patternTruth_withCapitals m pattern e caseSensitive _).mpr ⟨s, rfl, hlike⟩⟩

/-- Without regard to letter case, text and pattern are both in capitals. -/
theorem Predicate.holds_likeIgnoreCase (hschema : schema.Proper)
    (hpath : schema.lookup path = .ok target) (options : Options) (pattern : String) (e : Char)
    (ms : Mentions) :
    ∃ p ms', ofFilter schema options (.likeIgnoreCase path pattern e) ms = .ok (p, ms') ∧
      ∀ (ops : Operators) (db : Contents) (m : Char → List Char) (item : ItemView) (σ : Scope),
        Part.truth? (ops.withCapitals m) db p.params p.parts ⟨σ, item.mentioned ms', item.id⟩ =
            some .holds ↔
          ∃ s, .text s ∈ item.values (ops.withCapitals m) db schema.naming target ∧
            Pattern.like (some e) (inCapitals m pattern) (inCapitals m s) :=
  holds_like hschema hpath options pattern e false ms

end

namespace Predicate

def filmTitle : Attribute := ⟨"film", "title", .string, .inline "TITLE"⟩

def film (title : String) : ItemView := ⟨.null, fun _ => .text title⟩

end Predicate

end AspectQuery
