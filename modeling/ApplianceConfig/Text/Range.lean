/-!
# Ranges of characters

Properties of characters are given as lists of ranges of code points in rising
order.
-/

set_option autoImplicit false

namespace ApplianceConfig.Text

/-- Whether a character lies in one of the ranges, both ends included. -/
def inRanges (ranges : List (Nat × Nat)) (c : Char) : Bool :=
  ranges.any fun range => range.1 ≤ c.toNat && c.toNat ≤ range.2

end ApplianceConfig.Text
