import AspectQuery.Document
import AspectQuery.Sql.Token
/-!
# SQL dialects

The dialects differ in how they cut out a page of a result, in whether that needs an order, and in
the pattern operator SIMILAR TO.
-/

set_option autoImplicit false

namespace AspectQuery.Sql

inductive Dialect where
  | sqlite
  | postgres
  | tsql
  deriving DecidableEq

namespace Dialect

def name : Dialect → String
  | .sqlite => "sqlite"
  | .postgres => "postgres"
  | .tsql => "tsql"

def ofName? (s : String) : Option Dialect := [sqlite, postgres, tsql].find? fun d => d.name == s

/-- Further names under which a user may ask for a dialect, in lower case. -/
def ofAlias? : String → Option Dialect
  | "postgresql" => some .postgres
  | "mssql" => some .tsql
  | "sqlserver" => some .tsql
  | s => ofName? s

/-- The dialect of a name in any letter case; without one, the name in lower case. -/
def parse (s : String) : Except String Dialect :=
  match ofAlias? (Text.lower s) with
  | some d => .ok d
  | none => .error (Text.lower s)

def unknownMessage (name : String) : String := "unknown dialect '" ++ name ++ "'"

def ofDocument? (conv : Document.Conventions) (d : Document) : Option Dialect :=
  (d.name? conv).bind ofName?

def supportsSimilarTo : Dialect → Bool
  | .postgres => true
  | _ => false

/-- A page can only be cut out of an ordered result. -/
def pageNeedsOrder : Dialect → Bool
  | .tsql => true
  | _ => false

/-- A row count, read as a signed number of 64 bits. -/
def rowCount (n : UInt64) : Token := .integer n.toInt64.toInt

def limitTokens (count : Token) : List Token := [.keyword .limit, .space, count]

def offsetTokens (count : Token) : List Token := [.keyword .offset, .space, count]

/-- The clause that cuts out a page; nothing where the whole result is wanted. -/
def page : Dialect → Option UInt64 → Option UInt64 → List Token
  | _, none, none => []
  | .sqlite, limit, offset =>
    limitTokens ((limit.map rowCount).getD (.integer (-1))) ++
      match offset with
      | none => []
      | some n => .space :: offsetTokens (rowCount n)
  | .postgres, some l, some o => limitTokens (rowCount l) ++ .space :: offsetTokens (rowCount o)
  | .postgres, some l, none => limitTokens (rowCount l)
  | .postgres, none, some o => offsetTokens (rowCount o)
  | .tsql, limit, offset =>
    offsetTokens ((offset.map rowCount).getD (.integer 0)) ++ [.space, .keyword .rows] ++
      match limit with
      | none => []
      | some n =>
        [.space, .keyword .fetch, .space, .keyword .next, .space, rowCount n, .space,
          .keyword .rows, .space, .keyword .only]

end Dialect

end AspectQuery.Sql
