/-!
# Binary floating point of 64 bits

A number is its IEEE 754 bit pattern, so equality is equality of patterns. Rounding is to the
nearest number, a half to the even significand, computed exactly on natural numbers.
-/

set_option autoImplicit false

namespace AspectQuery

structure Binary64 where
  bits : UInt64
  deriving DecidableEq

namespace Binary64

def negative (x : Binary64) : Bool := decide (Nat.pow 2 63 ≤ x.bits.toNat)

/-- The biased exponent. -/
def scale (x : Binary64) : Nat := x.bits.toNat / Nat.pow 2 52 % Nat.pow 2 11

def fraction (x : Binary64) : Nat := x.bits.toNat % Nat.pow 2 52

def isNaN (x : Binary64) : Bool := decide (x.scale = 2047 ∧ x.fraction ≠ 0)

def isInfinite (x : Binary64) : Bool := decide (x.scale = 2047 ∧ x.fraction = 0)

def isZero (x : Binary64) : Bool := decide (x.scale = 0 ∧ x.fraction = 0)

def isFinite (x : Binary64) : Bool := decide (x.scale ≠ 2047)

/-- The magnitude of a finite number is `significand * 2 ^ exponent`. -/
def significand (x : Binary64) : Nat :=
  if x.scale = 0 then x.fraction else Nat.pow 2 52 + x.fraction

def exponent (x : Binary64) : Int := if x.scale = 0 then -1074 else (x.scale : Int) - 1075

/-- The magnitude of a finite number as a fraction of natural numbers. -/
def ratio (x : Binary64) : Nat × Nat :=
  (x.significand * Nat.pow 2 x.exponent.toNat, Nat.pow 2 (-x.exponent).toNat)

def ofMagnitude (negative : Bool) (magnitude : Nat) : Binary64 :=
  ⟨UInt64.ofNat (magnitude + if negative then Nat.pow 2 63 else 0)⟩

/-- The magnitude of infinity; every finite pattern lies below it. -/
def infiniteMagnitude : Nat := 2047 * Nat.pow 2 52

/-- The whole part of the binary logarithm of `num / den`, both positive. -/
def logRatio (num den : Nat) : Int :=
  let e : Int := (num.log2 : Int) - den.log2
  if den * Nat.pow 2 e.toNat ≤ num * Nat.pow 2 (-e).toNat then e else e - 1

/-- `num / den` to the nearest natural number, a half to the even neighbour. -/
def roundEven (num den : Nat) : Nat :=
  let q := num / den
  let r := num % den
  if 2 * r < den ∨ (2 * r = den ∧ q % 2 = 0) then q else q + 1

/-- The number nearest to `num / den`; infinity where that is the nearest pattern. -/
def ofRatio (negative : Bool) (num den : Nat) : Binary64 :=
  if num = 0 then ofMagnitude negative 0
  else
    let e := max (logRatio num den - 52) (-1074)
    let q := roundEven (num * Nat.pow 2 (-e).toNat) (den * Nat.pow 2 e.toNat)
    ofMagnitude negative (min ((e + 1074).toNat * Nat.pow 2 52 + q) infiniteMagnitude)

def ofInt (i : Int) : Binary64 := ofRatio (decide (i < 0)) i.natAbs 1

def ofNat (n : Nat) : Binary64 := ofRatio false n 1

def neg (x : Binary64) : Binary64 :=
  if x.negative then ⟨UInt64.ofNat (x.bits.toNat - Nat.pow 2 63)⟩
  else ⟨UInt64.ofNat (x.bits.toNat + Nat.pow 2 63)⟩

/-- The rounded product of two finite magnitudes. -/
def mulMagnitude (x y : Binary64) : Binary64 :=
  ofRatio false (x.ratio.1 * y.ratio.1) (x.ratio.2 * y.ratio.2)

/-- The rounded quotient of two finite magnitudes. -/
def divMagnitude (x y : Binary64) : Binary64 :=
  ofRatio false (x.ratio.1 * y.ratio.2) (x.ratio.2 * y.ratio.1)

end Binary64

end AspectQuery
