import AspectQuery.Toml.Moment
/-!
# Bare words of TOML

A value that is neither a text nor a list nor a table is one word: a boolean, a number or a moment.
Underscores group the digits of a number. Integers have at most 128 bits. A word that starts like an
integer with an underscore and goes on otherwise is spelled well as long as nobody reads it, and so
is a base without digits.
-/

set_option autoImplicit false

namespace AspectQuery.Toml

/-- Digits with underscores between some of them. -/
def groupedDigits? : List Char → Option (List Nat)
  | [] => none
  | [c] => (Json.digit? c).map ([·])
  | c :: '_' :: rest => do return (← Json.digit? c) :: (← groupedDigits? rest)
  | c :: rest => do return (← Json.digit? c) :: (← groupedDigits? rest)

def isHexDigit (c : Char) : Bool := (Json.hexDigit? c).isSome

/-- Takes out the underscores. Each has to stand behind a hexadecimal digit and before another; the
flag tells whether something that counts as one comes before the characters. -/
def ungrouped? : Bool → List Char → Option (List Char)
  | _, [] => some []
  | _, ['_'] => none
  | before, '_' :: c :: rest =>
    if before && isHexDigit c then (ungrouped? true rest).map (c :: ·) else none
  | _, c :: rest => (ungrouped? (isHexDigit c) rest).map (c :: ·)

/-- A digit below the base. -/
def baseDigit? (base : Nat) (c : Char) : Option Nat := (Json.hexDigit? c).filter (· < base)

def integerDocument (i : Int) : Document :=
  if -(Nat.pow 2 127 : Int) ≤ i ∧ i < Nat.pow 2 128 then .integer i else .unreadable

/-- An integer after the mark of its base. -/
def basedInteger? (base : Nat) (cs : List Char) : Option Document := do
  match ← (← ungrouped? false cs).mapM (baseDigit? base) with
  | [] => return .unreadable
  | digits => return integerDocument (digits.foldl (fun n d => n * base + d) 0 : Nat)

/-- An integer after its sign, which may have an underscore behind it. A zero stands alone. -/
def decimalInteger? (signed negative : Bool) (cs : List Char) : Option Document := do
  if cs.head? = some '0' ∧ 1 < cs.length then none
  match (← ungrouped? signed cs).mapM Json.digit? with
  | none => return .unreadable
  | some digits =>
    let n : Int := Json.digitsValue digits
    return integerDocument (if negative then -n else n)

/-- Splits before the first of certain characters, which is dropped. -/
def cut (p : Char → Bool) (cs : List Char) : List Char × Option (List Char) :=
  match cs.dropWhile fun c => !p c with
  | [] => (cs, none)
  | _ :: rest => (cs.takeWhile fun c => !p c, some rest)

/-- Digits of an optional part. -/
def optionalDigits? : Option (List Char) → Option (List Nat)
  | none => some []
  | some cs => groupedDigits? cs

/-- Digits before the point: a zero stands alone, unless an underscore is behind the sign. -/
def wholeDigits? : Bool → List Char → Option (List Nat)
  | true, '_' :: cs => groupedDigits? cs
  | _, cs => (groupedDigits? cs).filter fun ds => ds.length ≤ 1 || ds.head? != some 0

def splitSign : List Char → Bool × List Char
  | '-' :: cs => (true, cs)
  | '+' :: cs => (false, cs)
  | cs => (false, cs)

def exponent? : Option (List Char) → Option Int
  | none => some 0
  | some cs => do
    let (negative, cs) := splitSign cs
    let n : Int := Json.digitsValue (← groupedDigits? cs)
    return if negative then -n else n

/-- Numbers below this many places are zero, and above it out of range. -/
def floatPlaces : Int := 400

/-- `digits * 10 ^ power`, unless it is out of range. -/
def floatDocument (negative : Bool) (digits : List Nat) (power : Int) : Document :=
  let n := Json.digitsValue digits
  let places := (n.repr.length : Int) + power
  if n = 0 ∨ places < -floatPlaces then .float (.ofRatio negative 0 1)
  else if floatPlaces < places then .unreadable
  else
    let x := Binary64.ofRatio negative (n * Nat.pow 10 power.toNat) (Nat.pow 10 (-power).toNat)
    if x.isInfinite then .unreadable else .float x

/-- A number with a point or an exponent, after its sign. -/
def float? (signed negative : Bool) (cs : List Char) : Option Document := do
  let (mantissa, exponentPart) := cut (fun c => c == 'e' || c == 'E') cs
  let (wholePart, fractionPart) := cut (· == '.') mantissa
  let whole ← wholeDigits? signed wholePart
  let fraction ← optionalDigits? fractionPart
  let exponent ← exponent? exponentPart
  return floatDocument negative (whole ++ fraction) (exponent - fraction.length)

/-- The bit patterns of infinity and of the number that is none, without a sign. -/
def infinity : Binary64 := ⟨0x7ff0000000000000⟩

def notANumber : Binary64 := ⟨0x7ff8000000000000⟩

def isFloatMark (c : Char) : Bool := c == '.' || c == 'e' || c == 'E'

/-- A number after its sign. Only a point, an exponent or an underscore goes on behind the first
digits of a number. -/
def unsignedNumber? (signed negative : Bool) (cs : List Char) : Option Document :=
  if cs = "inf".toList then some (.float (if negative then infinity.neg else infinity))
  else if cs = "nan".toList then some (.float (if negative then notANumber.neg else notANumber))
  else
    match cs.dropWhile Char.isDigit with
    | [] => if cs.isEmpty then none else decimalInteger? signed negative cs
    | c :: rest =>
      if c = '-' ∨ c = ':' then none
      else if isFloatMark c || rest.any isFloatMark then float? signed negative cs
      else if c = '_' then decimalInteger? signed negative cs
      else none

def number? (cs : List Char) : Option Document :=
  match cs with
  | '0' :: 'x' :: digits => basedInteger? 16 digits
  | '0' :: 'o' :: digits => basedInteger? 8 digits
  | '0' :: 'b' :: digits => basedInteger? 2 digits
  | _ =>
    let (negative, rest) := splitSign cs
    unsignedNumber? (decide (rest.length < cs.length)) negative rest

def word? (cs : List Char) : Option Document :=
  if cs = "true".toList then some (.boolean true)
  else if cs = "false".toList then some (.boolean false)
  else if isMoment cs then some (momentDocument cs)
  else number? cs

end AspectQuery.Toml
