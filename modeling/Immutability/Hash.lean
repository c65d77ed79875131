/-!
# A hash of numbers

The 64-bit FNV-1a hash: each number is mixed into the hash so far, which is then multiplied.
-/

set_option autoImplicit false

namespace Immutability.Hash

def start : UInt64 := 0xcbf29ce484222325

def factor : UInt64 := 0x100000001b3

def mix (hash number : UInt64) : UInt64 := (hash ^^^ number) * factor

/-- The hash of these numbers, in their order. -/
def ofNumbers (numbers : List Nat) : UInt64 :=
  numbers.foldl (fun hash number => mix hash number.toUInt64) start

end Immutability.Hash
