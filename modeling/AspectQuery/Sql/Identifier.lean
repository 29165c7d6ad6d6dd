/-!
# Plain identifiers

Names of tables and columns go into statements without quotes, so they have to be plain: a letter
or an underscore, followed by letters, digits and underscores, all of them ASCII.
-/

set_option autoImplicit false

namespace AspectQuery.Sql

def isIdentifierStart (c : Char) : Bool := c.isAlpha || c == '_'

def isIdentifierChar (c : Char) : Bool := c.isAlphanum || c == '_'

def isIdentifierChars : List Char → Bool
  | [] => false
  | c :: rest => isIdentifierStart c && rest.all isIdentifierChar

def isIdentifier (s : String) : Bool := isIdentifierChars s.toList

end AspectQuery.Sql
