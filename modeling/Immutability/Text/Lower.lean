import Immutability.Text.CaseShift
import Immutability.Text.Cased

/-!
# Lower-casing

Lower-casing a text goes character by character, with two exceptions. A capital sigma at the end of
a word becomes the final form of the small letter, and a capital I with a dot above becomes two
characters. A second function compares texts up to the case of ASCII letters only.
-/

set_option autoImplicit false

namespace Immutability.Text

/-- Whether a cased letter comes first once the case-ignorable characters are skipped. -/
def meetsCased (chars : List Char) : Bool :=
  match chars.dropWhile isCaseIgnorable with
  | c :: _ => isCased c
  | [] => false

/-- Whether a word ends between the characters `before`, nearest first, and those `after`. -/
def endsWord (before after : List Char) : Bool := meetsCased before && !meetsCased after

/-- Lower case of one character between the characters `before`, nearest first, and `after`. -/
def lowerAt (before : List Char) (c : Char) (after : List Char) : List Char :=
  if c == 'Σ' then [if endsWord before after then 'ς' else 'σ']
  else if c == 'İ' then ['i', Char.ofNat 0x307]
  else [Char.ofNat (applyShifts c.toNat lowerShifts)]

/-- Lower case of a list of characters; `before` holds those that precede it, nearest first. -/
def lowerChars (before : List Char) : List Char → List Char
  | [] => []
  | c :: after => lowerAt before c after ++ lowerChars (c :: before) after

def lower (text : String) : String := String.ofList (lowerChars [] text.toList)

def sameIgnoringAsciiCase (a b : String) : Bool :=
  a.toList.map Char.toLower == b.toList.map Char.toLower

end Immutability.Text
