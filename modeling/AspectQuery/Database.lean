import AspectQuery.Sql.Identifier
import AspectQuery.Store
/-!
# Databases without rows

Either all tables are there and empty, or there are none and every statement fails. A database reads
statements of its own dialect, with so many values and with names that are no words of the dialect.
-/

set_option autoImplicit false

namespace AspectQuery

inductive Database where
  | withoutTables
  | withoutRows
  deriving DecidableEq

namespace Database

def answer : Database → Except StoreError (List Row)
  | .withoutTables => .error (.sqlite "no such table")
  | .withoutRows => .ok []

/-- The most placeholders of a statement. -/
def placeholderLimit : Nat := 32766

/-- The words that cannot be names. -/
def reservedWords : List String :=
  ["ADD", "ALL", "ALTER", "AND", "AS", "AUTOINCREMENT", "BETWEEN", "CASE", "CHECK", "COLLATE",
    "COMMIT", "CONSTRAINT", "CREATE", "DEFAULT", "DEFERRABLE", "DELETE", "DISTINCT", "DROP", "ELSE",
    "ESCAPE", "EXCEPT", "EXISTS", "FOREIGN", "FROM", "GROUP", "HAVING", "IN", "INDEX", "INSERT",
    "INTERSECT", "INTO", "IS", "ISNULL", "JOIN", "LIMIT", "NOT", "NOTHING", "NOTNULL", "NULL", "ON",
    "OR", "ORDER", "PRIMARY", "REFERENCES", "RETURNING", "SELECT", "SET", "TABLE", "THEN", "TO",
    "TRANSACTION", "UNION", "UNIQUE", "UPDATE", "USING", "VALUES", "WHEN", "WHERE"]

def isReserved (name : String) : Bool := reservedWords.contains (name.map Char.toUpper)

/-- Some word has another of a certain kind behind it. -/
def follows (first : String) (p : String → Bool) (words : List String) : Bool :=
  (words.zip words.tail).any fun pair => pair.1 == first && p pair.2

/-- The names of columns in a word stand behind points. -/
def columnNames (word : String) : List String :=
  (word.splitOn ".").tail.map fun part =>
    String.ofList (part.toList.takeWhile Sql.isIdentifierChar)

def namesReserved (words : List String) : Bool :=
  follows "FROM" isReserved words || follows "JOIN" isReserved words ||
    words.any fun word => (columnNames word).any isReserved

/-- What other dialects have: SIMILAR TO, and an OFFSET without a LIMIT. -/
def isForeign (words : List String) : Bool :=
  follows "SIMILAR" (· == "TO") words ||
    (follows "OFFSET" (fun word => word.toInt?.isSome) words && !words.contains "LIMIT")

/-- The text of a statement ends at the character zero, which is never where it should end. -/
def reads (statement : Bound) : Bool :=
  let words := statement.sql.splitOn " "
  !statement.sql.contains '\x00' && statement.params.length ≤ placeholderLimit &&
    !isForeign words && !namesReserved words

/-- The database as a store, which no transaction changes. -/
def store : Store Database where
  start d := (.ok (), d)
  query statement d :=
    (if reads statement then d.answer else .error (.sqlite "syntax error"), d)
  commit d := (.ok (), d)
  rollback d := (.ok (), d)

end Database

end AspectQuery
