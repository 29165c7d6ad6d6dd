import AspectQuery.AttributePath
import AspectQuery.Value
/-!
# Filters

A filter is a tree of conditions on the attributes and the id of an item. A combination of no
filters restricts nothing, whatever its connective.
-/

set_option autoImplicit false

namespace AspectQuery

inductive Connective where
  | and
  | or
  deriving DecidableEq

namespace Connective

def name : Connective → String
  | .and => "and"
  | .or => "or"

def ofName? (s : String) : Option Connective := [and, or].find? fun c => c.name == s

/-- The connective between two conditions of a statement. -/
def sql : Connective → String
  | .and => " AND "
  | .or => " OR "

end Connective

inductive Relation where
  | eq
  | ne
  | lt
  | le
  | gt
  | ge
  deriving DecidableEq

namespace Relation

def name : Relation → String
  | .eq => "eq"
  | .ne => "ne"
  | .lt => "lt"
  | .le => "le"
  | .gt => "gt"
  | .ge => "ge"

def ofName? (s : String) : Option Relation :=
  [eq, ne, lt, le, gt, ge].find? fun r => r.name == s

def sql : Relation → String
  | .eq => "="
  | .ne => "<>"
  | .lt => "<"
  | .le => "<="
  | .gt => ">"
  | .ge => ">="

end Relation

inductive Filter where
  | combine (op : Connective) (operands : List Filter)
  | not (filter : Filter)
  | empty (path : AttributePath)
  | relational (path : AttributePath) (op : Relation) (value : Value)
  | like (path : AttributePath) (pattern : String) (escape : Option Char) (caseSensitive : Bool)
  | similarTo (path : AttributePath) (pattern : String) (escape : Option Char)
  | between (path : AttributePath) (low high : Value)
  | among (path : AttributePath) (values : List Value)
  | itemIds (ids : List ItemId)
  | never

namespace Filter

/-- A pattern that is matched in capitals on both sides. -/
def likeIgnoreCase (path : AttributePath) (pattern : String) (escape : Char) : Filter :=
  .like path pattern (some escape) false

/-- Sets the escape character of a pattern; other filters have none. -/
def withEscape (escape : Char) : Filter → Filter
  | .like path pattern _ caseSensitive => .like path pattern (some escape) caseSensitive
  | .similarTo path pattern _ => .similarTo path pattern (some escape)
  | filter => filter

/-- Both filters where both are given. -/
def both : Option Filter → Option Filter → Option Filter
  | some l, some r => some (.combine .and [l, r])
  | l, none => l
  | none, r => r

mutual

/-- The attributes of all conditions, in the order of the tree. -/
def attributes : Filter → List AttributePath
  | .combine _ operands => attributesOfAll operands
  | .not filter => filter.attributes
  | .empty path => [path]
  | .relational path _ _ => [path]
  | .like path _ _ _ => [path]
  | .similarTo path _ _ => [path]
  | .between path _ _ => [path]
  | .among path _ => [path]
  | .itemIds _ => []
  | .never => []

def attributesOfAll : List Filter → List AttributePath
  | [] => []
  | filter :: rest => filter.attributes ++ attributesOfAll rest

end

end Filter

end AspectQuery
