/-!
# Sets of characters

A property of characters is kept as inclusive ranges of code points.
-/

set_option autoImplicit false

namespace AspectQuery.Text

structure CharSet where
  ranges : List (Nat × Nat)

namespace CharSet

def contains (s : CharSet) (c : Char) : Bool :=
  s.ranges.any fun r => decide (r.1 ≤ c.toNat ∧ c.toNat ≤ r.2)

end CharSet

end AspectQuery.Text
