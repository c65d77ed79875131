import Immutability.CharSet.Table
import Immutability.Regex.Opening

/-!
# Expressions that are choices of texts

Some expressions ask for nothing but one of a few texts: those whose openings are all whole, and long alternations
of literals. A text matches such an expression if one of the texts is a part of it, and no automaton of the
expression itself is needed.

Openings that are many, or that have much in common, are cut before this is decided, as long as what is left still
tells texts apart well. An expression whose openings are cut is no choice of texts.
-/

set_option autoImplicit false

namespace Immutability

namespace Opening

def commonBytes : List Nat → List Nat → Nat
  | a :: as, b :: bs => if a = b then commonBytes as bs + 1 else 0
  | _, _ => 0

def commonCount : List Opening → Nat
  | [] => 0
  | first :: rest =>
    (rest.map fun opening => commonBytes first.bytes opening.bytes).foldl min first.bytes.length

/-- The bytes that are frequent in texts, and all that begin a character that is not ASCII. -/
def frequentBytes : CharSet := .ofTable "a d 20 28-29 2c-32 39-3a 5f 61-69 6c-70 72-76 78-79 7c c0-ff"

def beginRarely (openings : List Opening) : Bool :=
  match openings.head?.bind (·.bytes.head?) with
  | some byte => !frequentBytes.holds byte
  | none => false

def allWhole (openings : List Opening) : Bool := openings.all (·.text.isSome)

/-- Cuts openings to what they have in common, where that alone tells texts apart well or the openings do not. -/
def cutToCommon (openings : List Opening) : List Opening :=
  let count := commonCount openings
  if 4 < count || (1 < count && !(allWhole openings && openings.length ≤ 16)) then
    distinct (cutAll count openings)
  else openings

/-- Cuts openings shorter and shorter as long as there are too many. Each step has a length and the number of
openings that may be left as they are. -/
def shorten (openings : List Opening) : List (Nat × Nat) → List Opening
  | [] => openings
  | (length, limit) :: steps =>
    if openings.length ≤ limit then openings else shorten (independent (cutAll length openings)) steps

def shortening : List (Nat × Nat) := [(5, 10), (4, 10), (3, 64), (2, 64), (1, 10)]

/-- Cuts openings where fewer bytes tell texts apart as well. The number is how many openings there were at first.
Whole openings are left as they are if a short one or too many would be left. -/
def simplify (count : Nat) (openings : List Opening) : List Opening :=
  let common := commonCount openings
  if 1 < count && 1 ≤ common && common ≤ 3 && beginRarely openings then distinct (cutAll 1 openings)
  else
    let openings := cutToCommon openings
    let short := shorten openings shortening
    if allWhole openings && (short.any (·.bytes.length ≤ 2) || 64 < short.length) then openings
    else short

end Opening

/-- The texts of openings that are all whole after they have been simplified. There is at least one, and none is
empty. -/
def Openings.texts? : Openings → Option (List (List Char))
  | none => none
  | some openings =>
    if openings.isEmpty || openings.any (·.bytes.isEmpty) then none
    else (Opening.simplify openings.length (Opening.independent openings)).mapM (·.text)

namespace Regex

/-- Whether an expression has neither groups nor assertions. -/
def isPlain : Regex → Bool
  | empty => true
  | literal _ => true
  | set _ _ => true
  | look _ => false
  | cat first rest => first.isPlain && rest.isPlain
  | alt first rest => first.isPlain && rest.isPlain
  | rep body _ _ _ => body.isPlain
  | group _ _ => false

def text? : Regex → Option (List Char)
  | literal chars => some chars
  | _ => none

/-- The least number of literals that make an alternation long. -/
def longAlternation : Nat := 3000

/-- The texts that an expression is a choice of, if it is one. -/
def texts? (regex : Regex) : Option (List (List Char)) :=
  if !regex.isPlain then none
  else
    match regex.openings.texts? with
    | some texts => some texts
    | none =>
      if longAlternation ≤ regex.branches.length then regex.branches.mapM text? else none

end Regex

end Immutability
