import Immutability.Regex.Bracket
import Immutability.Regex.Group

/-!
# Reading patterns

Reads a pattern into a regular expression, or refuses it. Groups may be named, flags hold until the end of the
group they stand in, and classes may be nested and combined. Look-around and back references are not part of
the language. Expressions may nest two hundred and fifty levels deep.
-/

set_option autoImplicit false

namespace Immutability.RegexText

def nestLimit : Nat := 250

/-- A part of a sequence: an expression, or a change of flags, which nothing can repeat. -/
structure Part where
  regex : Option Regex
  nesting : Nat := 0
deriving Inhabited

/-- An expression with how deep it nests. -/
structure Nested where
  regex : Regex
  nesting : Nat
deriving Inhabited

/-- The parts of a sequence, given latest first, as one expression. -/
def Nested.ofParts (parts : List Part) : Nested :=
  let regex := Regex.seq (parts.reverse.filterMap (·.regex))
  match parts with
  | [] => ⟨regex, 0⟩
  | [part] => ⟨regex, part.nesting⟩
  | parts => ⟨regex, 1 + (parts.map (·.nesting)).foldl max 0⟩

/-- The branches of an alternation, given latest first, as one expression. -/
def Nested.ofBranches (last : Nested) (earlier : List Nested) : Nested :=
  match earlier with
  | [] => last
  | earlier =>
    ⟨.oneOf ((last :: earlier).reverse.map (·.regex)),
      1 + (earlier.map (·.nesting)).foldl max last.nesting⟩

/-- A group whose end was not yet reached: what stands around it, and its number if it has one. -/
structure OpenGroup where
  number : Option Nat
  flags : Flags
  branches : List Nested
  parts : List Part

structure Reading where
  flags : Flags := {}
  /-- Branches of the current group before the last bar, latest first. -/
  branches : List Nested := []
  /-- Parts of the current branch, latest first. -/
  parts : List Part := []
  /-- Groups around the current one, innermost first. -/
  groups : List OpenGroup := []
  /-- How many groups have a number. -/
  count : Nat := 0
  /-- Names of groups. -/
  names : List (List Char) := []

namespace Reading

def current (reading : Reading) : Nested :=
  Nested.ofBranches (Nested.ofParts reading.parts) reading.branches

def push (reading : Reading) (regex : Regex) (nesting : Nat) : Reading :=
  { reading with parts := { regex := some regex, nesting } :: reading.parts }

def bar (reading : Reading) : Reading :=
  { reading with branches := Nested.ofParts reading.parts :: reading.branches, parts := [] }

def enter (reading : Reading) (number : Option Nat) (flags : Flags) : Reading :=
  { reading with
    flags
    branches := []
    parts := []
    groups := ⟨number, reading.flags, reading.branches, reading.parts⟩ :: reading.groups }

/-- Begins what opens with a parenthesis. Two groups do not have the same name. -/
def begin? (reading : Reading) : GroupOpening → Option Reading
  | .capture none =>
    some { reading.enter (some (reading.count + 1)) reading.flags with count := reading.count + 1 }
  | .capture (some name) =>
    if reading.names.contains name then none
    else
      some { reading.enter (some (reading.count + 1)) reading.flags with
        count := reading.count + 1
        names := name :: reading.names }
  | .scope flags => some (reading.enter none flags)
  | .change flags => some { reading with flags, parts := { regex := none } :: reading.parts }

def close? (reading : Reading) : Option Reading :=
  match reading.groups with
  | [] => none
  | group :: groups =>
    let inner := reading.current
    let regex := match group.number with
      | some number => .group number inner.regex
      | none => inner.regex
    some { reading with
      flags := group.flags
      branches := group.branches
      parts := { regex := some regex, nesting := inner.nesting + 1 } :: group.parts
      groups }

def repeat? (reading : Reading) (low : Nat) (high : Option Nat) (greedy : Bool) : Option Reading :=
  match reading.parts with
  | { regex := some regex, nesting } :: parts =>
    some { reading with
      parts := { regex := some (regex.repeated low high greedy), nesting := nesting + 1 } :: parts }
  | _ => none

/-- The whole expression, once everything was read. -/
def finish? (reading : Reading) : Option Regex :=
  let whole := reading.current
  if reading.groups.isEmpty && whole.nesting ≤ nestLimit then some whole.regex else none

/-- Repeats the last part of the current branch. A question mark behind a repetition makes it reluctant, or greedy
where it would be reluctant without. -/
def repeatMarked? (reading : Reading) (low : Nat) (high : Option Nat) (input : List Char) :
    Option (Reading × List Char) :=
  match input with
  | '?' :: rest => (reading.repeat? low high reading.flags.reluctant).map (·, rest)
  | rest => (reading.repeat? low high !reading.flags.reluctant).map (·, rest)

end Reading

/-- Reads on to the end of a pattern. The fuel is more than the length of the input. -/
def readAll : Nat → Reading → List Char → Option Regex
  | 0, _, _ => none
  | fuel + 1, reading, input =>
    let flags := reading.flags
    match skip flags input with
    | [] => reading.finish?
    | '(' :: rest =>
      (readGroupOpening flags rest).bind fun (opening, rest) =>
        (reading.begin? opening).bind (readAll fuel · rest)
    | ')' :: rest => reading.close?.bind (readAll fuel · rest)
    | '|' :: rest => readAll fuel reading.bar rest
    | '[' :: rest =>
      (readClass flags fuel rest).bind fun (part, rest) =>
        readAll fuel (reading.push (.ofSet part.set !flags.unicode) part.nesting) rest
    | '?' :: rest =>
      (reading.repeatMarked? 0 (some 1) rest).bind fun (reading, rest) => readAll fuel reading rest
    | '*' :: rest =>
      (reading.repeatMarked? 0 none rest).bind fun (reading, rest) => readAll fuel reading rest
    | '+' :: rest =>
      (reading.repeatMarked? 1 none rest).bind fun (reading, rest) => readAll fuel reading rest
    | '\x7b' :: rest =>
      (readBounds flags rest).bind fun ((low, high), rest) =>
        (reading.repeatMarked? low high (skip flags rest)).bind fun (reading, rest) =>
          readAll fuel reading rest
    | '\\' :: rest =>
      (readEscape flags rest).bind fun (element, rest) =>
        (element.regex? flags).bind fun regex => readAll fuel (reading.push regex 0) rest
    | '.' :: rest =>
      (dotSet? flags).bind fun set => readAll fuel (reading.push (.ofSet set false) 0) rest
    | '^' :: rest => readAll fuel (reading.push (.look (startLook flags)) 0) rest
    | '$' :: rest => readAll fuel (reading.push (.look (endLook flags)) 0) rest
    | c :: rest => readAll fuel (reading.push (literalRegex flags c) 0) rest

/-- The regular expression that a pattern stands for. -/
def read? (source : String) : Option Regex :=
  let input := source.toList
  readAll (input.length + 1) {} input

end Immutability.RegexText
