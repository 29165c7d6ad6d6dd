/-!
# UTF-8

Bytes that spell a text, and the first place where bytes do not.
-/

set_option autoImplicit false

namespace AspectQuery.Utf8

/-- Where the first malformed sequence starts. -/
inductive Fault where
  /-- That many bytes cannot start a character. -/
  | invalid (length index : Nat)
  /-- The bytes end within a character. -/
  | incomplete (index : Nat)
  deriving DecidableEq

def Fault.message : Fault → String
  | .invalid length index =>
    "invalid utf-8 sequence of " ++ toString length ++ " bytes from index " ++ toString index
  | .incomplete index => "incomplete utf-8 byte sequence from index " ++ toString index

/-- The ranges of the bytes after a first byte; none for a byte that cannot be first. -/
def tailRanges? (first : Nat) : Option (List (Nat × Nat)) :=
  if first < 0x80 then some []
  else if first < 0xC2 then none
  else if first < 0xE0 then some [(0x80, 0xBF)]
  else if first = 0xE0 then some [(0xA0, 0xBF), (0x80, 0xBF)]
  else if first = 0xED then some [(0x80, 0x9F), (0x80, 0xBF)]
  else if first < 0xF0 then some [(0x80, 0xBF), (0x80, 0xBF)]
  else if first = 0xF0 then some [(0x90, 0xBF), (0x80, 0xBF), (0x80, 0xBF)]
  else if first < 0xF4 then some [(0x80, 0xBF), (0x80, 0xBF), (0x80, 0xBF)]
  else if first = 0xF4 then some [(0x80, 0x8F), (0x80, 0xBF), (0x80, 0xBF)]
  else none

/-- What follows the tail of a character, or its fault when `taken` bytes of the character that
starts at `index` are known. -/
def skipTail (index : Nat) : List (Nat × Nat) → Nat → List UInt8 → Except Fault (List UInt8)
  | [], _, bytes => .ok bytes
  | _ :: _, _, [] => .error (.incomplete index)
  | (low, high) :: ranges, taken, b :: bytes =>
    if low ≤ b.toNat ∧ b.toNat ≤ high then skipTail index ranges (taken + 1) bytes
    else .error (.invalid taken index)

/-- The first fault of the bytes from `index` on, at most `steps` characters further. -/
def fault? : Nat → Nat → List UInt8 → Option Fault
  | 0, _, _ => none
  | _, _, [] => none
  | steps + 1, index, first :: bytes =>
    match tailRanges? first.toNat with
    | none => some (.invalid 1 index)
    | some ranges =>
      match skipTail index ranges 1 bytes with
      | .error e => some e
      | .ok rest => fault? steps (index + 1 + ranges.length) rest

/-- The text that bytes spell. -/
def decode (bytes : List UInt8) : Except Fault String :=
  match String.fromUTF8? ⟨bytes.toArray⟩ with
  | some s => .ok s
  | none => .error ((fault? bytes.length 0 bytes).getD (.incomplete bytes.length))

def encode (s : String) : List UInt8 := s.toUTF8.data.toList

end AspectQuery.Utf8
