import AspectQuery.Json.Reader
/-!
# Dates and times of TOML

A date, a time of day, or both with an offset from universal time. Seconds may be left out, and the
sixtieth second of a minute is there for leap seconds.
-/

set_option autoImplicit false

namespace AspectQuery.Toml

/-- A number of a fixed count of digits, at most `high`. -/
def fixedNumber? (count high : Nat) (cs : List Char) : Option (Nat × List Char) := do
  let digits ← (cs.take count).mapM Json.digit?
  let n := Json.digitsValue digits
  if digits.length = count ∧ n ≤ high then some (n, cs.drop count) else none

def expect? (c : Char) : List Char → Option (List Char)
  | d :: rest => if d = c then some rest else none
  | [] => none

def isLeapYear (year : Nat) : Bool :=
  decide (year % 4 = 0 ∧ (year % 100 ≠ 0 ∨ year % 400 = 0))

def daysInMonth (year month : Nat) : Nat :=
  if month = 2 then (if isLeapYear year then 29 else 28)
  else if month ∈ [4, 6, 9, 11] then 30 else 31

/-- What follows a date. -/
def skipDate? (cs : List Char) : Option (List Char) := do
  let (year, cs) ← fixedNumber? 4 9999 cs
  let (month, cs) ← fixedNumber? 2 12 (← expect? '-' cs)
  let (day, cs) ← fixedNumber? 2 (daysInMonth year month) (← expect? '-' cs)
  if 1 ≤ month ∧ 1 ≤ day then some cs else none

/-- Parts of a second are given by any number of digits. -/
def skipFraction? : List Char → Option (List Char)
  | '.' :: cs => (Json.takeRun? cs).map (·.2)
  | cs => some cs

def skipSeconds? : List Char → Option (List Char)
  | ':' :: cs => do
    let (_, cs) ← fixedNumber? 2 60 cs
    skipFraction? cs
  | cs => some cs

def skipHourMinute? (cs : List Char) : Option (List Char) := do
  let (_, cs) ← fixedNumber? 2 23 cs
  let (_, cs) ← fixedNumber? 2 59 (← expect? ':' cs)
  return cs

/-- What follows a time of day. -/
def skipTime? (cs : List Char) : Option (List Char) := do skipSeconds? (← skipHourMinute? cs)

def skipOffset? : List Char → Option (List Char)
  | 'Z' :: cs => some cs
  | 'z' :: cs => some cs
  | '+' :: cs => skipHourMinute? cs
  | '-' :: cs => skipHourMinute? cs
  | cs => some cs

def isDate (cs : List Char) : Bool := skipDate? cs = some []

def isMoment (cs : List Char) : Bool :=
  match skipDate? cs with
  | none => skipTime? cs = some []
  | some [] => true
  | some (separator :: rest) =>
    (separator == 'T' || separator == 't' || separator == ' ') &&
      (skipTime? rest).bind skipOffset? = some []

/-- A moment is a record of its own kind, so that it is no text. -/
def momentDocument (cs : List Char) : Document := .record [("datetime", .text (String.ofList cs))]

end AspectQuery.Toml
