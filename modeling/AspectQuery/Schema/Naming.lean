import AspectQuery.Document
import AspectQuery.Schema.Error
import AspectQuery.Sql.Identifier
/-!
# Names of tables and columns

The names that every statement uses, and how the names of tables and columns are formed from the
ids of aspects and the names of attributes where a definition gives none.
-/

set_option autoImplicit false

namespace AspectQuery

def checkIdentifier (role name : String) : Except SchemaError Unit :=
  if Sql.isIdentifier name then .ok () else .error (.invalidIdentifier role name)

structure Naming where
  itemTable : String := "MEDIA_ITEMS"
  itemIdColumn : String := "MEDIA_ITEM_ID"
  valueIdColumn : String := "VALUE_ID"
  valueColumn : String := "VALUE"
  /-- The column by which the values of a collection are ordered. -/
  valueOrderColumn : Option String := some "VALUE_ORDER"
  aspectTableStem : String := "M_"
  valueTableStem : String := "V_"
  junctionTableStem : String := "NM_"
  deriving DecidableEq

namespace Naming

/-- ASCII letters in capitals, digits as they are, and an underscore for any other character. -/
def physicalChar (c : Char) : Char := if c.isAlphanum then c.toUpper else '_'

def physical (name : String) : String := String.ofList (name.toList.map physicalChar)

def aspectTable (n : Naming) (aspect : String) : String := n.aspectTableStem ++ physical aspect

def column (attr : String) : String := physical attr

def valueTable (n : Naming) (aspect attr : String) : String :=
  n.valueTableStem ++ physical aspect ++ "_" ++ physical attr

def junctionTable (n : Naming) (aspect attr : String) : String :=
  n.junctionTableStem ++ physical aspect ++ "_" ++ physical attr

/-- The names that are used as they are have to be identifiers. -/
def validate (n : Naming) : Except SchemaError Unit := do
  checkIdentifier "item table" n.itemTable
  checkIdentifier "item id column" n.itemIdColumn
  checkIdentifier "value id column" n.valueIdColumn
  checkIdentifier "value column" n.valueColumn
  match n.valueOrderColumn with
  | none => return ()
  | some name => checkIdentifier "value order column" name

def ofDocument? (conv : Document.Conventions) (d : Document) : Option Naming := do
  let names :=
    ["item_table", "item_id_column", "value_id_column", "value_column", "value_order_column",
      "aspect_table_prefix", "value_table_prefix", "junction_table_prefix"]
  let base : Naming := {}
  match ← d.members? conv names with
  | [itemTable, itemIdColumn, valueIdColumn, valueColumn, valueOrderColumn, aspectTable, valueTable,
      junctionTable] =>
    return {
      itemTable := ← Document.defaulted Document.text? base.itemTable itemTable
      itemIdColumn := ← Document.defaulted Document.text? base.itemIdColumn itemIdColumn
      valueIdColumn := ← Document.defaulted Document.text? base.valueIdColumn valueIdColumn
      valueColumn := ← Document.defaulted Document.text? base.valueColumn valueColumn
      valueOrderColumn := ←
        Document.defaulted (Document.optional? Document.text?) base.valueOrderColumn
          valueOrderColumn
      aspectTableStem := ← Document.defaulted Document.text? base.aspectTableStem aspectTable
      valueTableStem := ← Document.defaulted Document.text? base.valueTableStem valueTable
      junctionTableStem := ←
        Document.defaulted Document.text? base.junctionTableStem junctionTable }
  | _ => none

def optionalText : Option String → Document
  | none => .null
  | some s => .text s

def document (n : Naming) : Document :=
  .record [
    ("item_table", .text n.itemTable),
    ("item_id_column", .text n.itemIdColumn),
    ("value_id_column", .text n.valueIdColumn),
    ("value_column", .text n.valueColumn),
    ("value_order_column", optionalText n.valueOrderColumn),
    ("aspect_table_prefix", .text n.aspectTableStem),
    ("value_table_prefix", .text n.valueTableStem),
    ("junction_table_prefix", .text n.junctionTableStem)]

end Naming

end AspectQuery
