import Immutability.CharSet.Basic

/-!
# Tables of characters

A table is a text that lists code points in hexadecimal, in ascending order and with blanks or ends of lines
between them.
`41-5a` is a range, and `100-12e/2` is every second code point of a range.
-/

set_option autoImplicit false

namespace Immutability.CharSet

/-- Value of a hexadecimal number in lower case. -/
def hexValue (digits : String) : Nat :=
  digits.toList.foldl (fun value c => value * 16 + if c ≤ '9' then c.toNat - 48 else c.toNat - 87) 0

def ofItem (item : String) : List (Nat × Nat) :=
  match item.splitOn "-" with
  | [point] => [(hexValue point, hexValue point)]
  | [low, high] =>
    match high.splitOn "/" with
    | [high, stride] =>
      let count := (hexValue high - hexValue low) / hexValue stride + 1
      (List.range count).map fun i =>
        let point := hexValue low + i * hexValue stride
        (point, point)
    | _ => [(hexValue low, hexValue high)]
  | _ => []

def items (table : String) : List String :=
  ((table.splitOn "\n").flatMap (·.splitOn " ")).filter (· != "")

def ofTable (table : String) : CharSet := ⟨(items table).flatMap ofItem⟩

end Immutability.CharSet
