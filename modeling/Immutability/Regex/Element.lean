import Immutability.Regex.Basic
import Immutability.Regex.Number
import Immutability.Text.Search
import Immutability.Unicode.Property

/-!
# Elements of patterns

The elements that are written with a backslash: characters, classes of characters by kind or by property, and
assertions.
-/

set_option autoImplicit false

namespace Immutability.RegexText

/-- What a single element of a pattern stands for. -/
inductive Element where
  /-- A character, and whether it is written as a byte. -/
  | literal (c : Char) (asByte : Bool)
  | set (chars : CharSet)
  | look (assertion : Look)
deriving Repr

/-- The kinds of characters that a letter behind a backslash names. -/
inductive Kind where
  | digit
  | blank
  | word
deriving DecidableEq, Repr

def Kind.ascii : Kind → CharSet
  | digit => .ofTable "30-39"
  | blank => .ofTable "9-d 20"
  | word => .ofTable "30-39 41-5a 5f 61-7a"

def Kind.unicode : Kind → CharSet
  | digit => Unicode.digit
  | blank => Unicode.whiteSpace
  | word => Unicode.word

def readKind (flags : Flags) (kind : Kind) (negated : Bool) (rest : List Char) :
    Option (Element × List Char) := do
  let set := if flags.unicode then kind.unicode else kind.ascii
  return (.set (← negate? flags negated set), rest)

/-! ### Properties -/

/-- Characters up to a closing brace, latest first. -/
def readBraced (flags : Flags) : Nat → List Char → List Char → Option (List Char × List Char)
  | 0, _, _ => none
  | fuel + 1, read, input =>
    match skip flags input with
    | [] => none
    | c :: rest => if c == '\x7d' then some (read.reverse, rest) else readBraced flags fuel (c :: read) rest

/-- The characters of a property as it is written, which may be given a value, and whether the value is the one
that they do not have. -/
def property? (name : List Char) : Option (Bool × CharSet) :=
  match Text.cutAt? ['!', '='] name, Text.cutAt? [':'] name, Text.cutAt? ['='] name with
  | some (property, value), _, _ => (Unicode.valued? property value).map (true, ·)
  | none, some (property, value), _ => (Unicode.valued? property value).map (false, ·)
  | none, none, some (property, value) => (Unicode.valued? property value).map (false, ·)
  | none, none, none => (Unicode.named? name).map (false, ·)

/-- The characters of a property, in one letter or in braces, or those that do not have it. -/
def readProperty (flags : Flags) (negated : Bool) (input : List Char) :
    Option (Element × List Char) := do
  let (name, rest) ← match skip flags input with
    | [] | '\\' :: _ => none
    | '\x7b' :: rest => readBraced flags (rest.length + 1) [] rest
    | c :: rest => some ([c], rest)
  let (unequal, set) ← property? name
  if flags.unicode then
    return (.set (← negate? flags (negated != unequal) (foldSet flags set)), rest)
  else none

/-! ### Boundaries of words -/

/-- The kinds of word boundary that are written in braces. -/
def boundaryKind? : String → Option WordEdge
  | "start" => some .start
  | "end" => some .finish
  | "start-half" => some .startHalf
  | "end-half" => some .finishHalf
  | _ => none

def isBoundaryChar (c : Char) : Bool := c.isAlpha || c == '-'

def readBoundaryKind (flags : Flags) : Nat → List Char → List Char → List Char × List Char
  | fuel + 1, read, c :: rest =>
    if isBoundaryChar c then readBoundaryKind flags fuel (c :: read) (skip flags rest)
    else (read.reverse, c :: rest)
  | _, read, input => (read.reverse, input)

/-- The kind of a word boundary, where a brace and a letter or hyphen follow it. -/
def readBoundary (flags : Flags) (input : List Char) : Option (Element × List Char) :=
  let boundary := fun edge => Element.look (.word (!flags.unicode) edge)
  match input with
  | '\x7b' :: rest =>
    match skip flags rest with
    | [] => none
    | c :: more =>
      if isBoundaryChar c then
        match readBoundaryKind flags (more.length + 1) [] (c :: more) with
        | (kind, '\x7d' :: rest) =>
          (boundaryKind? (String.ofList kind)).map fun edge => (boundary edge, rest)
        | _ => none
      else some (boundary .boundary, input)
  | _ => some (boundary .boundary, input)

/-! ### Escapes -/

/-- Characters with a meaning of their own. -/
def isMeta (c : Char) : Bool :=
  ['\\', '.', '+', '*', '?', '(', ')', '|', '[', ']', '\x7b', '\x7d', '^', '$', '#', '&', '-',
    '~'].contains c

/-- Whether a character stands for itself behind a backslash. -/
def isEscapable (c : Char) : Bool :=
  isMeta c || (c.toNat < 0x80 && !c.isAlphanum && c != '<' && c != '>')

def readEscape (flags : Flags) : List Char → Option (Element × List Char)
  | [] => none
  | c :: rest =>
    let edge := fun edge => some (Element.look (.word (!flags.unicode) edge), rest)
    let literal := fun point => some (Element.literal (Char.ofNat point) false, rest)
    match c with
    | 'x' => (readHex flags 2 rest).map fun ((c, asByte), rest) => (.literal c asByte, rest)
    | 'u' => (readHex flags 4 rest).map fun ((c, _), rest) => (.literal c false, rest)
    | 'U' => (readHex flags 8 rest).map fun ((c, _), rest) => (.literal c false, rest)
    | 'p' => readProperty flags false rest
    | 'P' => readProperty flags true rest
    | 'd' => readKind flags .digit false rest
    | 'D' => readKind flags .digit true rest
    | 's' => readKind flags .blank false rest
    | 'S' => readKind flags .blank true rest
    | 'w' => readKind flags .word false rest
    | 'W' => readKind flags .word true rest
    | 'a' => literal 0x7
    | 't' => literal 0x9
    | 'n' => literal 0xa
    | 'v' => literal 0xb
    | 'f' => literal 0xc
    | 'r' => literal 0xd
    | 'A' => some (.look .textStart, rest)
    | 'z' => some (.look .textEnd, rest)
    | 'b' => readBoundary flags rest
    | 'B' => edge .inside
    | '<' => edge .start
    | '>' => edge .finish
    | c => if isEscapable c then some (.literal c false, rest) else none

/-! ### Meaning -/

/-- Whether a character can be written as it is: among bytes, one that is written as a byte lies within
ASCII. -/
def isAllowed (flags : Flags) (c : Char) (asByte : Bool) : Bool :=
  flags.unicode || !asByte || c.toNat < 0x80

def literalRegex (flags : Flags) (c : Char) : Regex :=
  if !flags.ignoreCase then .literal [c]
  else if flags.unicode then .ofSet (.ofPoints (Unicode.orbit c.toNat)) false
  else .ofSet (CharSet.single c).closeAsciiCase true

def Element.regex? (flags : Flags) : Element → Option Regex
  | literal c asByte => if isAllowed flags c asByte then some (literalRegex flags c) else none
  | set chars => some (.ofSet chars !flags.unicode)
  | look assertion => some (.look assertion)

/-- The set that a full stop stands for. Among bytes there is none, for it would divide characters. -/
def dotSet? (flags : Flags) : Option CharSet :=
  if !flags.unicode then none
  else if flags.dotMatchesNewline then some .any
  else if flags.crlf then some (CharSet.ofTable "a d").compl
  else some (CharSet.ofTable "a").compl

def startLook (flags : Flags) : Look :=
  if !flags.multiLine then .textStart else if flags.crlf then .crlfLineStart else .lineStart

def endLook (flags : Flags) : Look :=
  if !flags.multiLine then .textEnd else if flags.crlf then .crlfLineEnd else .lineEnd

end Immutability.RegexText
