import AspectQuery.Settings.Environment
import AspectQuery.Text.Letter
/-!
# Variables in texts

A text refers to variables of the environment as `$name` or as `${name}`. The values of
variables are put in as they are and not looked at again. A variable whose value is not a text is
missing like one that is not set.
-/

set_option autoImplicit false

namespace AspectQuery.Expansion

inductive Piece where
  | literal (c : Char)
  | reference (name : List Char)
  deriving DecidableEq

def isNameChar (c : Char) : Bool := Text.isAlphanumeric c || c == '_'

/-- The name after a dollar sign, and what follows the reference. In braces it goes on to the closing
one, or to the end. -/
def reference? : List Char → Option (List Char × List Char)
  | '\x7b' :: inner =>
    some (inner.takeWhile (· != '\x7d'), (inner.dropWhile (· != '\x7d')).tail)
  | cs =>
    if (cs.takeWhile isNameChar).isEmpty then none
    else some (cs.takeWhile isNameChar, cs.dropWhile isNameChar)

theorem length_dropWhile_le {α : Type} (p : α → Bool) (xs : List α) :
    (xs.dropWhile p).length ≤ xs.length :=
  (List.dropWhile_sublist p).length_le

theorem length_reference? {cs name rest : List Char} (h : reference? cs = some (name, rest)) :
    rest.length ≤ cs.length := by
  unfold reference? at h
  split at h
  · rename_i inner
    simp only [Option.some.injEq, Prod.mk.injEq] at h
    rw [← h.2, List.length_tail, List.length_cons]
    have := length_dropWhile_le (· != '\x7d') inner
    omega
  · split at h
    · exact absurd h (by simp)
    · simp only [Option.some.injEq, Prod.mk.injEq] at h
      rw [← h.2]
      exact length_dropWhile_le _ _

/-- A dollar sign without a name after it stands for itself. -/
def pieces : List Char → List Piece
  | [] => []
  | c :: rest =>
    if c = '$' then
      match _h : reference? rest with
      | some (name, after) => .reference name :: pieces after
      | none => .literal c :: pieces rest
    else .literal c :: pieces rest
termination_by cs => cs.length
decreasing_by
  · have := length_reference? _h
    simp only [List.length_cons]
    omega
  all_goals simp

namespace Piece

/-- The name of a variable that is missing is the fault of its reference. -/
def expand (lookup? : String → Option String) : Piece → Except String (List Char)
  | .literal c => .ok [c]
  | .reference name =>
    match lookup? (String.ofList name) with
    | some value => .ok value.toList
    | none => .error (String.ofList name)

end Piece

/-- The text with the values of its variables; without all of them, the name of the first that is
missing. -/
def expand (lookup? : String → Option String) (s : String) : Except String String := do
  let texts ← (pieces s.toList).mapM (Piece.expand lookup?)
  return String.ofList texts.flatten

/-- The names of all variables that a text refers to. -/
def references (s : String) : List String :=
  (pieces s.toList).filterMap fun
    | .literal _ => none
    | .reference name => some (String.ofList name)

/-- The values in an environment in which all values are texts. -/
def valueOf? (environment : List (String × String)) : String → Option String :=
  (Environment.ofTexts environment).text?

end AspectQuery.Expansion
