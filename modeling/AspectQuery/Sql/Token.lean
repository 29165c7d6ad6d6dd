import AspectQuery.Text.Casing
/-!
# SQL tokens

A statement is a list of tokens, blanks included, whose texts are joined. A literal is enclosed in
single quotes with each quote inside it written twice.
-/

set_option autoImplicit false

namespace AspectQuery.Sql

inductive Keyword where
  | select
  | distinct
  | from
  | where
  | on
  | join
  | inner
  | left
  | outer
  | groupBy
  | orderBy
  | asc
  | desc
  | limit
  | offset
  | fetch
  | next
  | rows
  | only
  deriving DecidableEq

def Keyword.text : Keyword → String
  | .select => "SELECT"
  | .distinct => "DISTINCT"
  | .from => "FROM"
  | .where => "WHERE"
  | .on => "ON"
  | .join => "JOIN"
  | .inner => "INNER"
  | .left => "LEFT"
  | .outer => "OUTER"
  | .groupBy => "GROUP BY"
  | .orderBy => "ORDER BY"
  | .asc => "ASC"
  | .desc => "DESC"
  | .limit => "LIMIT"
  | .offset => "OFFSET"
  | .fetch => "FETCH"
  | .next => "NEXT"
  | .rows => "ROWS"
  | .only => "ONLY"

def quoteChar (c : Char) : List Char := if c = '\'' then ['\'', '\''] else [c]

def quote (s : String) : String := "'" ++ String.ofList (s.toList.flatMap quoteChar) ++ "'"

inductive Token where
  | keyword (k : Keyword)
  | comma
  | openParen
  | closeParen
  | equals
  | space
  | name (s : String)
  | qualified (qualifier : Option String) (name : String)
  | integer (i : Int)
  | literal (s : String)
  | function (name : String)
  /-- Text that is taken over as it is. -/
  | raw (s : String)
  deriving DecidableEq

namespace Token

def text : Token → String
  | .keyword k => k.text
  | .comma => ","
  | .openParen => "("
  | .closeParen => ")"
  | .equals => "="
  | .space => " "
  | .name s => s
  | .qualified (some q) s => q ++ "." ++ s
  | .qualified none s => s
  | .integer i => toString i
  | .literal s => quote s
  | .function s => Text.upper s
  | .raw s => s

/-- The text of a list of tokens. -/
def render (ts : List Token) : String := String.join (ts.map text)

@[simp] theorem render_nil : render [] = "" := rfl

theorem render_append (ts us : List Token) : render (ts ++ us) = render ts ++ render us := by
  apply String.ext
  simp [render, String.toList_join]

end Token

end AspectQuery.Sql
