import Immutability.Regex.Look
import Immutability.Unicode.Fold

/-!
# Regular expressions

Regular expressions are built in a simple form. Sequences and alternations are flat, literals that follow each
other are one literal, alternatives of one character each are a set, and a repetition of what matches the
empty text only is no repetition. What all branches of an alternation start with is taken out of it.

Whether a repetition is greedy, and whether a set was read among bytes, makes no difference to what matches.
Expressions that differ in it are different, though, so that neither is taken out of an alternation in place of
the other.
-/

set_option autoImplicit false

namespace Immutability

inductive Regex where
  | empty
  /-- These characters one after another. -/
  | literal (chars : List Char)
  /-- One character of a set, which may have been read among bytes. -/
  | set (chars : CharSet) (asBytes : Bool)
  | look (assertion : Look)
  /-- One expression and then the rest of a sequence. -/
  | cat (first rest : Regex)
  /-- One expression or the rest of an alternation. -/
  | alt (first rest : Regex)
  /-- At least `low` times, and at most `high` times if there is such a bound. -/
  | rep (body : Regex) (low : Nat) (high : Option Nat) (greedy : Bool)
  /-- A group with its number. -/
  | group (number : Nat) (body : Regex)
deriving DecidableEq, Repr, Inhabited

namespace Regex

/-! ### Sets and sequences -/

/-- One character of a set, as a literal if the set has one only. There is one empty set. -/
def ofSet (chars : CharSet) (asBytes : Bool) : Regex :=
  match chars.only? with
  | some c => literal [c]
  | none => set chars (asBytes && !chars.isEmpty)

def parts : Regex → List Regex
  | empty => []
  | cat first rest => first :: rest.parts
  | regex => [regex]

/-- Puts an expression in front of others, and joins literals. -/
def prepend (first : Regex) (rest : List Regex) : List Regex :=
  match first, rest with
  | literal a, literal b :: rest => literal (a ++ b) :: rest
  | first, rest => first :: rest

def ofParts (parts : List Regex) : Regex :=
  match parts.reverse with
  | [] => empty
  | last :: front => front.foldl (fun rest first => cat first rest) last

def seq (regexes : List Regex) : Regex := ofParts ((regexes.flatMap parts).foldr prepend [])

/-! ### Alternations -/

def branches : Regex → List Regex
  | alt first rest => first :: rest.branches
  | regex => [regex]

def ofBranches (branches : List Regex) : Regex :=
  match branches.reverse with
  | [] => set .empty false
  | last :: front => front.foldl (fun rest first => alt first rest) last

/-- The character of a literal of one. -/
def char? : Regex → Option Char
  | literal [c] => some c
  | _ => none

def set? : Regex → Option CharSet
  | set chars _ => some chars
  | _ => none

/-- An alternation of these branches, as a set if all of them are characters or all of them are sets. -/
def choose (branches : List Regex) : Regex :=
  match branches with
  | [branch] => branch
  | branches =>
    match branches.mapM char?, branches.mapM set? with
    | some chars, _ => ofSet (.ofPoints (chars.map Char.toNat)) false
    | none, some sets => ofSet (.unions sets) false
    | none, none => ofBranches branches

/-- How many parts two sequences have in common at their start. -/
def commonLength : List Regex → List Regex → Nat
  | a :: as, b :: bs => if a = b then commonLength as bs + 1 else 0
  | _, _ => 0

/-- How many parts all branches have in common at their start, if they are sequences. -/
def commonStart (branches : List Regex) : Nat :=
  let isSequence := fun regex => match regex with
    | cat _ _ => true
    | _ => false
  match branches with
  | first :: second :: more =>
    if branches.all isSequence then
      ((second :: more).map fun other => commonLength first.parts other.parts).foldl min
        first.parts.length
    else 0
  | _ => 0

/-- One of these expressions. What all of them start with is taken out. -/
def oneOf (regexes : List Regex) : Regex :=
  let flat := regexes.flatMap branches
  let simple := choose flat
  let count := match simple with
    | alt _ _ => commonStart flat
    | _ => 0
  if count == 0 then simple
  else
    let start := (flat.head?.map parts).getD []
    let rests := flat.map fun branch => ofParts (branch.parts.drop count)
    seq (start.take count ++ [choose (rests.flatMap branches)])

/-! ### Repetitions -/

/-- Whether an expression matches nothing but the empty text. -/
def onlyEmpty : Regex → Bool
  | empty => true
  | literal _ => false
  | set _ _ => false
  | look _ => true
  | cat first rest => first.onlyEmpty && rest.onlyEmpty
  | alt first rest => first.onlyEmpty && rest.onlyEmpty
  | rep body _ high _ => body.onlyEmpty && high.isSome
  | group _ body => body.onlyEmpty

def repeated (body : Regex) (low : Nat) (high : Option Nat) (greedy : Bool) : Regex :=
  let (low, high) := if body.onlyEmpty then (min low 1, some (min (high.getD 1) 1)) else (low, high)
  if high == some 0 then empty
  else if low == 1 && high == some 1 then body
  else rep body low high greedy

end Regex

end Immutability
