/-!
# Texts inside texts

Whether one text begins with another, contains another, and how often.
-/

set_option autoImplicit false

namespace Immutability.Text

def holdsPart (part : List Char) : List Char → Bool
  | [] => part.isEmpty
  | c :: rest => part.isPrefixOf (c :: rest) || holdsPart part rest

def contains (text part : String) : Bool := holdsPart part.toList text.toList

def beginsWith (text start : String) : Bool := start.toList.isPrefixOf text.toList

/-- What stands before and behind the first occurrence of `part`, if there is one. -/
def cutAt? (part : List Char) : List Char → Option (List Char × List Char)
  | [] => if part.isEmpty then some ([], []) else none
  | c :: rest =>
    if part.isPrefixOf (c :: rest) then some ([], (c :: rest).drop part.length)
    else (cutAt? part rest).map fun (before, after) => (c :: before, after)

/-- The texts between the occurrences of a character: one more than there are occurrences. -/
def splitAt (mark : Char) : List Char → List (List Char)
  | [] => [[]]
  | c :: rest =>
    if c == mark then [] :: splitAt mark rest
    else
      match splitAt mark rest with
      | [] => [[c]]
      | part :: parts => (c :: part) :: parts

theorem splitAt_ne_nil (mark : Char) (chars : List Char) : splitAt mark chars ≠ [] := by
  cases chars with
  | nil => simp [splitAt]
  | cons c rest => simp only [splitAt]; repeat' split <;> simp

/-- Putting the mark back between the parts gives the characters back. -/
theorem intercalate_splitAt (mark : Char) (chars : List Char) :
    List.intercalate [mark] (splitAt mark chars) = chars := by
  induction chars with
  | nil => rfl
  | cons c rest ih =>
    obtain ⟨part, parts, hsplit⟩ := List.exists_cons_of_ne_nil (splitAt_ne_nil mark rest)
    rw [hsplit, List.intercalate] at ih
    by_cases hc : c = mark
    · have hparts : splitAt mark (c :: rest) = [] :: part :: parts := by simp [splitAt, hsplit, hc]
      rw [hparts, List.intercalate, List.intersperse_cons_cons]
      simp [ih, hc]
    · have hparts : splitAt mark (c :: rest) = (c :: part) :: parts := by simp [splitAt, hsplit, hc]
      cases parts <;> simp_all [List.intercalate, List.intersperse_cons_cons]

/-- Number of three-dot marks, counted from the left without overlap. -/
def countDots : List Char → Nat
  | '.' :: '.' :: '.' :: rest => countDots rest + 1
  | _ :: rest => countDots rest
  | [] => 0

end Immutability.Text
