import Immutability.Regex.Element

/-!
# Classes in brackets

A class in brackets lists characters, ranges and classes, may be negated, and may be combined with others by
operators that stand between them. Where case is ignored a class is closed under case before it is combined or
negated.
-/

set_option autoImplicit false

namespace Immutability.RegexText

/-- A class with how deep it nests. -/
structure ClassPart where
  set : CharSet
  nesting : Nat := 0
deriving Inhabited

/-- Union of the parts of a class, given latest first. -/
def ClassPart.union (parts : List ClassPart) : ClassPart :=
  { set := .unions (parts.reverse.map (·.set))
    nesting := match parts with
      | [] => 0
      | [part] => part.nesting
      | parts => 1 + (parts.map (·.nesting)).foldl max 0 }

inductive ClassOp where
  | inter
  | diff
  | symmDiff
deriving Repr

def ClassOp.apply : ClassOp → CharSet → CharSet → CharSet
  | inter => CharSet.inter
  | diff => CharSet.diff
  | symmDiff => CharSet.symmDiff

/-- Combines what stands before an operator with what stands behind it. -/
def combine (flags : Flags) (left : Option (ClassPart × ClassOp)) (right : ClassPart) : ClassPart :=
  match left with
  | none => right
  | some (left, op) =>
    { set := .unions [op.apply (foldSet flags left.set) (foldSet flags right.set)]
      nesting := 1 + max left.nesting right.nesting }

/-- The classes named in brackets and colons, all within ASCII. -/
def asciiClass? : String → Option CharSet
  | "alnum" => some (.ofTable "30-39 41-5a 61-7a")
  | "alpha" => some (.ofTable "41-5a 61-7a")
  | "ascii" => some (.ofTable "0-7f")
  | "blank" => some (.ofTable "9 20")
  | "cntrl" => some (.ofTable "0-1f 7f")
  | "digit" => some (.ofTable "30-39")
  | "graph" => some (.ofTable "21-7e")
  | "lower" => some (.ofTable "61-7a")
  | "print" => some (.ofTable "20-7e")
  | "punct" => some (.ofTable "21-2f 3a-40 5b-60 7b-7e")
  | "space" => some (.ofTable "9-d 20")
  | "upper" => some (.ofTable "41-5a")
  | "word" => some (.ofTable "30-39 41-5a 5f 61-7a")
  | "xdigit" => some (.ofTable "30-39 41-46 61-66")
  | _ => none

/-- A class named in brackets and colons, if there is one behind the opening bracket, and whether it is
negated. -/
def readNamedClass? : List Char → Option ((Bool × CharSet) × List Char)
  | ':' :: rest =>
    let (negated, rest) := match rest with
      | '^' :: rest => (true, rest)
      | rest => (false, rest)
    match rest.dropWhile (· != ':') with
    | ':' :: ']' :: after =>
      (asciiClass? (String.ofList (rest.takeWhile (· != ':')))).map fun set => ((negated, set), after)
    | _ => none
  | _ => none

def readClassItem (flags : Flags) : List Char → Option (Element × List Char)
  | [] => none
  | '\\' :: rest => readEscape flags rest
  | c :: rest => some (.literal c false, rest)

/-- The code point of a character inside brackets. Among bytes it lies within ASCII. -/
def Element.point? (flags : Flags) : Element → Option Nat
  | literal c _ => if flags.unicode || c.toNat < 0x80 then some c.toNat else none
  | _ => none

/-- The set of a single element inside brackets, where assertions have no place. -/
def Element.set? (flags : Flags) : Element → Option CharSet
  | set chars => some chars
  | element => (element.point? flags).map fun point => .range point point

def readClassRange (flags : Flags) (input : List Char) : Option (CharSet × List Char) := do
  let (first, rest) ← readClassItem flags input
  match skip flags rest with
  | [] => none
  | '-' :: after =>
    let next := peek? flags after
    if next == some ']' || next == some '-' then return (← first.set? flags, '-' :: after)
    else
      let (last, rest) ← readClassItem flags (skip flags after)
      let low ← first.point? flags
      let high ← last.point? flags
      if low ≤ high then return (.range low high, rest) else none
  | rest => return (← first.set? flags, rest)

/-- Hyphens at the start of a class, which stand for themselves. -/
def readHyphens (flags : Flags) : Nat → List ClassPart → List Char → List ClassPart × List Char
  | fuel + 1, parts, '-' :: rest =>
    readHyphens flags fuel ({ set := .single '-' } :: parts) (skip flags rest)
  | _, parts, input => (parts, input)

/-- What stands at the start of a class: whether it is negated, and leading hyphens or a closing bracket
that stand for themselves. The fuel is no less than the length of the input. -/
def readClassStart (flags : Flags) (fuel : Nat) (input : List Char) : Bool × List ClassPart × List Char :=
  let input := skip flags input
  let (negated, input) := match input with
    | '^' :: rest => (true, skip flags rest)
    | input => (false, input)
  let (parts, input) := readHyphens flags fuel [] input
  match parts, input with
  | [], ']' :: rest => (negated, [{ set := .single ']' }], skip flags rest)
  | parts, input => (negated, parts, input)

/-- The rest of a class, given what stands before the last operator and the parts behind it. The fuel is more than
the length of the input. -/
def readClassBody (flags : Flags) : Nat → Bool → Option (ClassPart × ClassOp) → List ClassPart →
    List Char → Option (ClassPart × List Char)
  | 0, _, _, _, _ => none
  | fuel + 1, negated, left, parts, input =>
    let operator := fun op rest =>
      readClassBody flags fuel negated (some (combine flags left (.union parts), op)) [] rest
    match skip flags input with
    | [] => none
    | '[' :: rest =>
      match readNamedClass? rest with
      | some ((negatedClass, set), rest) =>
        (negate? flags negatedClass (foldSet flags set)).bind fun set =>
          readClassBody flags fuel negated left ({ set } :: parts) rest
      | none =>
        let (innerNegated, innerParts, rest) := readClassStart flags fuel rest
        match readClassBody flags fuel innerNegated none innerParts rest with
        | some (inner, rest) => readClassBody flags fuel negated left (inner :: parts) rest
        | none => none
    | ']' :: rest =>
      let whole := combine flags left (.union parts)
      (negate? flags negated (foldSet flags whole.set)).map fun set =>
        ({ set, nesting := 1 + whole.nesting }, rest)
    | '&' :: '&' :: rest => operator .inter rest
    | '-' :: '-' :: rest => operator .diff rest
    | '~' :: '~' :: rest => operator .symmDiff rest
    | input =>
      match readClassRange flags input with
      | some (set, rest) => readClassBody flags fuel negated left ({ set } :: parts) rest
      | none => none

/-- The class behind an opening bracket, up to the bracket that closes it. The fuel is more than the length of the
input. -/
def readClass (flags : Flags) (fuel : Nat) (input : List Char) : Option (ClassPart × List Char) :=
  let (negated, parts, rest) := readClassStart flags fuel input
  readClassBody flags fuel negated none parts rest

end Immutability.RegexText
