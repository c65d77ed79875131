import Immutability.CharSet.Basic

/-!
# Looking up characters

The ranges of a set as an array, in which a character is found by halving.
-/

set_option autoImplicit false

namespace Immutability.CharSet

structure Index where
  ranges : Array (Nat × Nat)
deriving DecidableEq, Repr, Inhabited

def index (set : CharSet) : Index := ⟨set.ranges.toArray⟩

namespace Index

/-- Whether one of the ranges from `first` up to `last`, the latter excluded, holds the point. The fuel is the
number of ranges. -/
def holdsBetween (ranges : Array (Nat × Nat)) (point : Nat) : Nat → Nat → Nat → Bool
  | 0, _, _ => false
  | fuel + 1, first, last =>
    let middle := (first + last) / 2
    match ranges[middle]? with
    | none => false
    | some (low, high) =>
      if last ≤ first then false
      else if point < low then holdsBetween ranges point fuel first middle
      else if high < point then holdsBetween ranges point fuel (middle + 1) last
      else true

def contains (index : Index) (c : Char) : Bool :=
  holdsBetween index.ranges c.toNat index.ranges.size 0 index.ranges.size

end Index

end Immutability.CharSet
