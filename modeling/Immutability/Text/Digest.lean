import Immutability.Hash
import Immutability.Text.Search

/-!
# Digests of long texts

A text of at most two thousand characters is shown as it is. A longer one is shown as a digest: its
length, the number of three-dot marks in it, its two ends, and a 64-bit FNV-1a hash of its bytes.
-/

set_option autoImplicit false

namespace Immutability.Text

/-- The 64-bit FNV-1a hash of the bytes of a text. -/
def fnv1a (text : String) : UInt64 :=
  text.toUTF8.foldl (fun hash byte => Hash.mix hash byte.toUInt64) Hash.start

/-- A number in sixteen lower case hexadecimal digits. -/
def hex16 (number : UInt64) : String :=
  let digits := Nat.toDigits 16 number.toNat
  String.ofList (List.replicate (16 - digits.length) '0' ++ digits)

/-- What is shown of a text too long to be shown whole. -/
structure Digest where
  length : Nat
  elided : Nat
  head : String
  tail : String
  hash : String
deriving Repr

inductive Shown where
  | whole (text : String)
  | digest (digest : Digest)
deriving Repr

/-- Length up to which a text is shown whole. -/
def shownWhole : Nat := 2000

/-- Number of characters shown of each end of a longer text. -/
def shownEnd : Nat := 60

def shown (text : String) : Shown :=
  let chars := text.toList
  let length := chars.length
  if length ≤ shownWhole then .whole text
  else .digest
    { length
      elided := countDots chars
      head := String.ofList (chars.take shownEnd)
      tail := String.ofList (chars.drop (length - shownEnd))
      hash := hex16 (fnv1a text) }

end Immutability.Text
