import AspectQuery.ItemId
/-!
# Typed values

Values of attributes, filters and result rows, the types an attribute may declare, and coercion of
a value to a type. Coercion changes the kind of a value only where the declared type has a
counterpart of it.
-/

set_option autoImplicit false

namespace AspectQuery

inductive Value where
  | null
  | boolean (b : Bool)
  | integer (i : Int64)
  | float (x : Binary64)
  | text (s : String)
  | id (item : ItemId)
  deriving DecidableEq

inductive ValueType where
  | string
  | integer
  | float
  | boolean
  | id
  deriving DecidableEq

namespace ValueType

def name : ValueType → String
  | .string => "string"
  | .integer => "integer"
  | .float => "float"
  | .boolean => "boolean"
  | .id => "id"

def all : List ValueType := [.string, .integer, .float, .boolean, .id]

def ofName? (s : String) : Option ValueType := all.find? fun t => t.name == s

theorem ofName?_name (t : ValueType) : ofName? t.name = some t := by
  cases t <;> decide

end ValueType

/-- Why a value has no counterpart in a type. -/
inductive CoercionError where
  | malformedId (text : String)
  | mismatch (value : Value) (target : ValueType)

namespace Value

def isNull : Value → Bool
  | .null => true
  | _ => false

def text? : Value → Option String
  | .text s => some s
  | _ => none

/-- The value as it stands in messages. -/
def display : Value → String
  | .null => "NULL"
  | .boolean b => if b then "true" else "false"
  | .integer i => toString i.toInt
  | .float x => x.text
  | .text s => "'" ++ s ++ "'"
  | .id item => item.text

def coerce (target : ValueType) : Value → Except CoercionError Value
  | .null => .ok .null
  | .boolean b =>
    match target with
    | .boolean => .ok (.boolean b)
    | _ => .error (.mismatch (.boolean b) target)
  | .integer i =>
    match target with
    | .integer => .ok (.integer i)
    | .float => .ok (.float (.ofInt i.toInt))
    | .boolean =>
      if i = 0 then .ok (.boolean false)
      else if i = 1 then .ok (.boolean true)
      else .error (.mismatch (.integer i) target)
    | _ => .error (.mismatch (.integer i) target)
  | .float x =>
    match target with
    | .float => .ok (.float x)
    | _ => .error (.mismatch (.float x) target)
  | .text s =>
    match target with
    | .string => .ok (.text s)
    | .id =>
      match ItemId.ofText? s with
      | some item => .ok (.id item)
      | none => .error (.malformedId s)
    | _ => .error (.mismatch (.text s) target)
  | .id item =>
    match target with
    | .string => .ok (.text item.text)
    | .id => .ok (.id item)
    | _ => .error (.mismatch (.id item) target)

/-- An integer outside 64 bits is kept as a floating-point number. -/
def ofDocument? : Document → Option Value
  | .null => some .null
  | .boolean b => some (.boolean b)
  | .integer i =>
    if -(Nat.pow 2 63 : Int) ≤ i ∧ i < Nat.pow 2 63 then some (.integer (.ofInt i))
    else some (.float (.ofInt i))
  | .float x => some (.float x)
  | .text s => some (.text s)
  | _ => none

/-- An id is written as text, and a number that is not finite as null. -/
def document : Value → Document
  | .null => .null
  | .boolean b => .boolean b
  | .integer i => .integer i.toInt
  | .float x => if x.isFinite then .float x else .null
  | .text s => .text s
  | .id item => .text item.text

end Value

namespace CoercionError

def message : CoercionError → String
  | .malformedId s => "'" ++ s ++ "' is not a valid id"
  | .mismatch v t => "cannot convert " ++ v.display ++ " to " ++ t.name

end CoercionError

end AspectQuery
