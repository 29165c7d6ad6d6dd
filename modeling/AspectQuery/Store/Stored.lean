import AspectQuery.Store
import AspectQuery.Text.Utf8
/-!
# Values in a database

A database has no booleans and no ids. It holds booleans as integers and ids as texts, and a blob
of 16 bytes is read as an id. It has no number that is none; that is held as null.
-/

set_option autoImplicit false

namespace AspectQuery

inductive Stored where
  | null
  | integer (i : Int64)
  | real (x : Binary64)
  | text (bytes : List UInt8)
  | blob (bytes : List UInt8)
  deriving DecidableEq

namespace Stored

def ofValue : Value → Stored
  | .null => .null
  | .boolean b => .integer (if b then 1 else 0)
  | .integer i => .integer i
  | .float x => if x.isNaN then .null else .real x
  | .text s => .text (Utf8.encode s)
  | .id item => .text (Utf8.encode item.text)

/-- The value as a row gives it in a column. -/
def value (column : String) : Stored → Except StoreError Value
  | .null => .ok .null
  | .integer i => .ok (.integer i)
  | .real x => .ok (.float x)
  | .text bytes =>
    match Utf8.decode bytes with
    | .ok s => .ok (.text s)
    | .error e => .error (.unsupportedValue column e.message)
  | .blob bytes =>
    match ItemId.ofBytes? bytes with
    | some item => .ok (.id item)
    | none => .error (.unsupportedValue column (toString bytes.length ++ "-byte blob"))

end Stored

end AspectQuery
