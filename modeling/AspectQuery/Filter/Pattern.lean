import AspectQuery.Filter
/-!
# Patterns

In a pattern `%` stands for any text and `_` for any character. A character after the escape
character stands for itself.
-/

set_option autoImplicit false

namespace AspectQuery.Pattern

def escapeChar (escape c : Char) : List Char :=
  if c = '%' ∨ c = '_' ∨ c = escape then [escape, c] else [c]

/-- The pattern that stands for a text itself. -/
def literal (text : String) (escape : Char) : String :=
  String.ofList (text.toList.flatMap (escapeChar escape))

/-- The pattern of all texts that start with a text. -/
def startingWith (text : String) (escape : Char) : String := literal text escape ++ "%"

end AspectQuery.Pattern
