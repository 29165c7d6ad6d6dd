import AspectQuery.Direction
import AspectQuery.Sql.Dialect
/-!
# SELECT statements

A statement as data, and its tokens in a dialect. Rows come from a table or from another statement.
-/

set_option autoImplicit false

namespace AspectQuery.Sql

/-- A column of a table that goes by an alias. -/
structure Column where
  qualifier : String
  name : String
  deriving DecidableEq

namespace Column

def text (c : Column) : String := c.qualifier ++ "." ++ c.name

def token (c : Column) : Token := .qualified (some c.qualifier) c.name

end Column

inductive Expression where
  | column (c : Column)
  /-- The number of rows in which the column is not null. -/
  | count (c : Column)
  deriving DecidableEq

structure Output where
  expression : Expression
  aliasName : Option String
  deriving DecidableEq

inductive JoinKind where
  | inner
  | leftOuter
  deriving DecidableEq

structure Join where
  kind : JoinKind
  table : String
  aliasName : String
  left : Column
  right : Column
  deriving DecidableEq

structure OrderKey where
  column : Column
  direction : Option Direction := none
  deriving DecidableEq

/-- Where rows come from, under an alias. -/
inductive Source (Query : Type) where
  | table (name aliasName : String)
  | derived (query : Query) (aliasName : String)

structure Select where
  distinct : Bool := false
  outputs : List Output := []
  source : Option (Source Select) := none
  joins : List Join := []
  /-- The text of the condition that rows have to meet. -/
  condition : Option String := none
  groupBy : List Column := []
  orderBy : List OrderKey := []
  limit : Option UInt64 := none
  offset : Option UInt64 := none

namespace Expression

def tokens : Expression → List Token
  | .column c => [c.token]
  | .count c => [.function "count", .openParen, c.token, .closeParen]

end Expression

namespace Output

def tokens (o : Output) : List Token :=
  o.expression.tokens ++
    match o.aliasName with
    | none => []
    | some a => [.space, .name a]

end Output

namespace JoinKind

def tokens : JoinKind → List Token
  | .inner => [.keyword .inner]
  | .leftOuter => [.keyword .left, .space, .keyword .outer]

end JoinKind

namespace Join

def tokens (j : Join) : List Token :=
  j.kind.tokens ++
    [.space, .keyword .join, .space, .name j.table, .space, .name j.aliasName, .space, .keyword .on,
      .space, j.left.token, .space, .equals, .space, j.right.token]

end Join

namespace OrderKey

def tokens (k : OrderKey) : List Token :=
  k.column.token ::
    match k.direction with
    | none => []
    | some .ascending => [.space, .keyword .asc]
    | some .descending => [.space, .keyword .desc]

end OrderKey

/-- Each item after a blank, with commas between the items. -/
def spacedList : List (List Token) → List Token
  | [] => []
  | [item] => .space :: item
  | item :: rest => .space :: item ++ .comma :: spacedList rest

/-- A clause that is left out where it has no items. -/
def listClause (k : Keyword) (items : List (List Token)) : List Token :=
  if items.isEmpty then [] else .space :: .keyword k :: spacedList items

/-- A clause that is left out where it is empty. -/
def spaced (tokens : List Token) : List Token :=
  if tokens.isEmpty then [] else .space :: tokens

namespace Select

mutual

def tokens (d : Dialect) : Select → List Token
  | ⟨distinct, outputs, source, joins, condition, groupBy, orderBy, limit, offset⟩ =>
    .keyword .select :: (if distinct then [.space, .keyword .distinct] else []) ++
      spacedList (outputs.map Output.tokens) ++
      sourceTokens d source ++
      joins.flatMap (fun j => .space :: j.tokens) ++
      (match condition with
        | none => []
        | some text => [.space, .keyword .where, .space, .raw text]) ++
      listClause .groupBy (groupBy.map fun c => [c.token]) ++
      listClause .orderBy (orderBy.map OrderKey.tokens) ++
      spaced (d.page limit offset)

def sourceTokens (d : Dialect) : Option (Source Select) → List Token
  | none => []
  | some (.table name aliasName) =>
    [.space, .keyword .from, .space, .name name, .space, .name aliasName]
  | some (.derived query aliasName) =>
    [.space, .keyword .from, .space, .openParen] ++ query.tokens d ++
      [.closeParen, .space, .name aliasName]

end

/-- The text of a statement. -/
def render (d : Dialect) (s : Select) : String := Token.render (s.tokens d)

end Select

end AspectQuery.Sql
