import AspectQuery.Number.Binary64
/-!
# The shortest decimal that reads back

A finite number is the nearest one to every real in an interval around it. Of the decimals in that
interval the ones with the fewest digits lie on the coarsest grid of powers of ten that meets it,
and there the nearest of the two neighbours is taken, the upper one at equal distance.
-/

set_option autoImplicit false

namespace AspectQuery

/-- The decimal `digits * 10 ^ power`. -/
structure Decimal where
  digits : Nat
  power : Int
  deriving DecidableEq, Repr

namespace Binary64

/-- The reals that round to a positive finite number, over the denominator `unit`. -/
structure Neighbourhood where
  low : Nat
  value : Nat
  high : Nat
  unit : Nat
  closed : Bool

/-- Below a power of two the numbers are twice as dense as above it. -/
def neighbourhood (x : Binary64) : Neighbourhood :=
  let up := Nat.pow 2 (x.exponent - 2).toNat
  let below := if x.fraction = 0 ∧ 1 < x.scale then 1 else 2
  { low := (4 * x.significand - below) * up
    value := 4 * x.significand * up
    high := (4 * x.significand + 2) * up
    unit := Nat.pow 2 (2 - x.exponent).toNat
    closed := decide (x.significand % 2 = 0) }

namespace Neighbourhood

/-- Whether `digits * 10 ^ power` rounds to the number. -/
def meets (n : Neighbourhood) (d : Decimal) : Bool :=
  let point := d.digits * Nat.pow 10 d.power.toNat * n.unit
  let stretch := Nat.pow 10 (-d.power).toNat
  if n.closed then decide (n.low * stretch ≤ point ∧ point ≤ n.high * stretch)
  else decide (n.low * stretch < point ∧ point < n.high * stretch)

/-- The nearer of the two points around the value on the grid of `10 ^ power`, if it is in. -/
def onGrid (n : Neighbourhood) (power : Int) : Option Decimal :=
  let step := Nat.pow 10 power.toNat * n.unit
  let value := n.value * Nat.pow 10 (-power).toNat
  let lower : Decimal := ⟨value / step, power⟩
  let upper : Decimal := ⟨value / step + 1, power⟩
  if n.meets upper && (!n.meets lower || decide (step ≤ 2 * (value % step))) then some upper
  else if n.meets lower then some lower
  else none

end Neighbourhood

/-- The powers of ten of the grids, the coarsest first; the last one meets every interval. -/
def gridPowers : List Int := (List.range 634).map fun (i : Nat) => (309 : Int) - i

/-- The shortest decimal that rounds to the magnitude of a finite number other than zero. -/
def shortest (x : Binary64) : Decimal :=
  (gridPowers.findSome? x.neighbourhood.onGrid).getD ⟨x.significand, 0⟩

end Binary64

namespace Decimal

def zeros (n : Nat) : String := String.ofList (List.replicate n '0')

/-- All digits in their places, without an exponent and without a trailing point. -/
def positional (d : Decimal) : String :=
  let text := d.digits.repr
  if 0 ≤ d.power then text ++ zeros d.power.toNat
  else
    let places := (-d.power).toNat
    if text.length ≤ places then "0." ++ zeros (places - text.length) ++ text
    else
      let whole := text.length - places
      String.ofList (text.toList.take whole) ++ "." ++ String.ofList (text.toList.drop whole)

end Decimal

namespace Binary64

/-- The text of a number: its shortest digits, all in their places. -/
def text (x : Binary64) : String :=
  if x.isNaN then "NaN"
  else
    let sign := if x.negative then "-" else ""
    if x.isInfinite then sign ++ "inf"
    else if x.isZero then sign ++ "0"
    else sign ++ x.shortest.positional

end Binary64

end AspectQuery
