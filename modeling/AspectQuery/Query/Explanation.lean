import AspectQuery.Store
/-!
# Explanations

The statements that a query would run, each with a label that says what it is for.
-/

set_option autoImplicit false

namespace AspectQuery

structure Explanation where
  label : String
  statement : Bound
  deriving DecidableEq

namespace Explanation

def document (e : Explanation) : Document :=
  .record [("label", .text e.label), ("sql", .text e.statement.sql),
    ("params", .list (e.statement.params.map Value.document))]

/-- A statement as lines of text: its label, its text and its parameters if it has any. -/
def lines (e : Explanation) : List String :=
  ["-- " ++ e.label, e.statement.sql ++ ";"] ++
    if e.statement.params.isEmpty then []
    else ["-- params: " ++ String.intercalate ", " (e.statement.params.map Value.display)]

/-- The statements with a blank line between each two. -/
def allLines : List Explanation → List String
  | [] => []
  | [e] => e.lines
  | e :: rest => e.lines ++ "" :: allLines rest

end Explanation

end AspectQuery
