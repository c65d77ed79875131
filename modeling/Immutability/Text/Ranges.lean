/-!
# Sets of characters as ranges

Character properties are given as lists of code point ranges in ascending order.
-/

set_option autoImplicit false

namespace Immutability.Text

/-- Whether a code point lies in one of the ranges, which stand in ascending order. -/
def inRanges (point : Nat) : List (Nat × Nat) → Bool
  | [] => false
  | (low, high) :: rest =>
    if point < low then false else decide (point ≤ high) || inRanges point rest

end Immutability.Text
