import AspectQuery.Document
/-!
# Sort directions
-/

set_option autoImplicit false

namespace AspectQuery

inductive Direction where
  | ascending
  | descending
  deriving DecidableEq

namespace Direction

def name : Direction → String
  | .ascending => "ascending"
  | .descending => "descending"

def ofName? (s : String) : Option Direction := [ascending, descending].find? fun d => d.name == s

def ofDocument? (d : Document) : Option Direction := (d.name? .json).bind ofName?

end Direction

end AspectQuery
