import AspectQuery.Text.Utf8
/-!
# Environments

An environment is a list of entries, in each of which an equals sign stands between the name of a
variable and its value. Entries are bytes, so that a variable can have a value that is not a text.
-/

set_option autoImplicit false

namespace AspectQuery

structure Environment where
  entries : List (List UInt8) := []

namespace Environment

/-- The entry of a variable up to its value. -/
def start (name : String) : List UInt8 := Utf8.encode (name ++ "=")

def ofTable (table : List (String × List UInt8)) : Environment where
  entries := table.map fun e => start e.1 ++ e.2

def ofTexts (table : List (String × String)) : Environment :=
  ofTable (table.map fun e => (e.1, Utf8.encode e.2))

/-- The environment of a block with a zero between each two entries. -/
def ofBlock (block : List UInt8) : Environment where
  entries := block.splitOn 0

/-- The value of a variable. No variable has the empty name, and a name with an equals sign in it
goes on into the value of another variable. -/
def value? (environment : Environment) (name : String) : Option (List UInt8) :=
  if name.isEmpty then none else environment.entries.findSome? (start name).isPrefixOf?

/-- The value of a variable, if it is a text. -/
def text? (environment : Environment) (name : String) : Option String :=
  (environment.value? name).bind fun bytes => (Utf8.decode bytes).toOption

end Environment

end AspectQuery
