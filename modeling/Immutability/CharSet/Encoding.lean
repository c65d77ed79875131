import Immutability.CharSet.Basic

/-!
# Sets of characters as sequences of bytes

A range of characters, written in UTF-8, is a number of sequences of byte ranges. Each sequence comes from a
piece of the range whose characters all have the same number of bytes and of which only the last bytes run
through their whole range.
-/

set_option autoImplicit false

namespace Immutability.CharSet

/-- The bytes of a code point in UTF-8. -/
def encode (point : Nat) : List Nat :=
  if point < 0x80 then [point]
  else if point < 0x800 then [0xc0 + point / 64, 0x80 + point % 64]
  else if point < 0x10000 then [0xe0 + point / 4096, 0x80 + point / 64 % 64, 0x80 + point % 64]
  else [0xf0 + point / 262144, 0x80 + point / 4096 % 64, 0x80 + point / 64 % 64, 0x80 + point % 64]

/-- Where a range has to be divided because the number of bytes changes behind it: the last point of the first
piece. -/
def cutByLength? (low high : Nat) : Option Nat :=
  [0x7f, 0x7ff, 0xffff].find? fun last => low ≤ last && last < high

/-- Where a range has to be divided so that its last bytes, in blocks of the given sizes, run through their
whole range. -/
def cutByBlock? (low high : Nat) : List Nat → Option Nat
  | [] => none
  | size :: sizes =>
    if low / size == high / size then cutByBlock? low high sizes
    else if low % size != 0 then some (low / size * size + (size - 1))
    else if high % size != size - 1 then some (high / size * size - 1)
    else cutByBlock? low high sizes

/-- The pieces of a range, in ascending order. No range is divided more often in a row than the fuel says. -/
def pieces : Nat → Nat → Nat → List (Nat × Nat)
  | 0, _, _ => []
  | fuel + 1, low, high =>
    if high < low then []
    else if low < 0xe000 && 0xd7ff < high then
      pieces fuel low 0xd7ff ++ pieces fuel 0xe000 high
    else
      let cut := (cutByLength? low high).or
        (if high < 0x80 then none else cutByBlock? low high [64, 4096, 262144])
      match cut with
      | some last => pieces fuel low last ++ pieces fuel (last + 1) high
      | none => [(low, high)]

/-- The sequences of byte ranges of a set, in ascending order. -/
def byteRanges (set : CharSet) : List (List (Nat × Nat)) :=
  set.ranges.flatMap fun (low, high) =>
    (pieces 32 low high).map fun (low, high) => (encode low).zip (encode high)

end Immutability.CharSet
