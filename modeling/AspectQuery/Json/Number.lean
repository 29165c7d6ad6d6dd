import AspectQuery.Document
/-!
# Number literals of JSON

A literal without point and exponent that fits 64 bits is an integer. Any other is a floating-point
number: as many leading digits as fit 64 bits are taken as one natural number, which is rounded and
then multiplied or divided by a rounded power of ten. Minus zero is a floating-point number.
-/

set_option autoImplicit false

namespace AspectQuery.Json

/-- The parts of a literal; digits are values below ten. -/
structure NumberLiteral where
  negative : Bool
  whole : List Nat
  fraction : List Nat
  exponent : Option (Bool × List Nat)

def wordBound : Nat := Nat.pow 2 64

/-- Appends digits as long as the number stays below the bound; counts the digits taken. -/
def takeDigits : Nat → List Nat → Nat × Nat
  | n, [] => (n, 0)
  | n, d :: rest =>
    if n * 10 + d < wordBound then
      let (m, taken) := takeDigits (n * 10 + d) rest
      (m, taken + 1)
    else (n, 0)

def digitsValue (ds : List Nat) : Nat := ds.foldl (fun n d => n * 10 + d) 0

def powerOfTen (n : Nat) : Binary64 := .ofRatio false (Nat.pow 10 n) 1

/-- Powers of ten above this one are not representable. -/
def greatestPower : Nat := 308

/-- Division by a power of ten, in steps where the power is not representable. Three steps take
every number below the word bound to zero. -/
def divideByPower : Nat → Binary64 → Nat → Binary64
  | 0, x, _ => x
  | steps + 1, x, e =>
    if e ≤ greatestPower then x.divMagnitude (powerOfTen e)
    else divideByPower steps (x.divMagnitude (powerOfTen greatestPower)) (e - greatestPower)

/-- `n * 10 ^ e`, or nothing where it is too large. -/
def scaled (n : Nat) (e : Int) : Option Binary64 :=
  let x := Binary64.ofNat n
  if x.isZero then some x
  else if 0 ≤ e then
    if e.toNat ≤ greatestPower then
      let y := x.mulMagnitude (powerOfTen e.toNat)
      if y.isInfinite then none else some y
    else none
  else some (divideByPower 4 x (-e).toNat)

namespace NumberLiteral

def exponentValue (n : NumberLiteral) : Int :=
  match n.exponent with
  | none => 0
  | some (negative, digits) => if negative then -(digitsValue digits) else digitsValue digits

def float? (n : NumberLiteral) : Option Binary64 :=
  let (w, wholeTaken) := takeDigits 0 n.whole
  let (m, fractionTaken) := takeDigits w n.fraction
  let dropped := n.whole.length - wholeTaken
  let power := n.exponentValue + dropped - fractionTaken
  (scaled m power).map fun x => if n.negative then x.neg else x

def isInteger (n : NumberLiteral) : Bool := n.fraction.isEmpty && n.exponent.isNone

def document (n : NumberLiteral) : Document :=
  let value := digitsValue n.whole
  if n.isInteger && !n.negative && decide (value < wordBound) then .integer value
  else if n.isInteger && n.negative && decide (0 < value ∧ value ≤ Nat.pow 2 63) then
    .integer (-value)
  else
    match n.float? with
    | some x => .float x
    | none => .unreadable

end NumberLiteral

end AspectQuery.Json
