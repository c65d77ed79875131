import Immutability.Regex.Flags
import Immutability.Unicode.Binary

/-!
# Groups of patterns

What stands behind an opening parenthesis: nothing, a name, or flags. A name is made of letters, numbers and a
few marks. The letters and numbers are those of version 17.0 of the Unicode standard, which are those of
version 16.0 and some more.
-/

set_option autoImplicit false

namespace Immutability.RegexText

def nameLetters : CharSet :=
  Unicode.alphabetic.union (.ofTable
    "88f c5c cdc a7ce-a7cf a7d2 a7d4 a7f1 10940-10959 10ec5-10ec7 10efa-10efb 11b60-11b67 11db0-11ddb
    16ea0-16eb8 16ebb-16ed3 16ff2-16ff6 187f8-187ff 18d09-18d1e 18d80-18df2 1e6c0-1e6de 1e6e0-1e6f5
    1e6fe-1e6ff 2b73a-2b73f 2cea2-2cead 323b0-33479")

def nameNumbers : CharSet :=
  (Unicode.Category.charsOf Unicode.Category.numbers).union (.ofTable "11de0-11de9 16ff4-16ff6")

/-- Whether a character may stand in a name, at its start or further in it. -/
def isNameChar (first : Bool) (c : Char) : Bool :=
  c == '_' || nameLetters.contains c ||
    (!first && (c == '.' || c == '[' || c == ']' || nameNumbers.contains c))

/-- The name of a group, up to the mark that closes it. -/
def readName (input : List Char) : Option (List Char × List Char) :=
  let name := input.takeWhile (· != '>')
  match name, input.dropWhile (· != '>') with
  | c :: more, '>' :: rest =>
    if isNameChar true c && more.all (isNameChar false) then some (name, rest) else none
  | _, _ => none

/-- Flags up to a colon or a closing parenthesis, with the mark that ended them. Each letter and the sign
stand at most once, and letters follow the sign. -/
def readFlags (flags : Flags) (on : Bool) (seen : List Char) :
    List Char → Option (Flags × List Char × Char × List Char)
  | [] => none
  | c :: rest =>
    if c == ':' || c == ')' then
      if seen.head? == some '-' then none else some (flags, seen, c, rest)
    else if seen.contains c then none
    else if c == '-' then readFlags flags false (c :: seen) rest
    else
      match flags.change? on c with
      | some flags => readFlags flags on (c :: seen) rest
      | none => none

inductive GroupOpening where
  /-- A group, with its name if it has one. -/
  | capture (name : Option (List Char))
  /-- A group with flags of its own. -/
  | scope (flags : Flags)
  /-- Flags for the rest of the group around it. -/
  | change (flags : Flags)

def readGroupOpening (flags : Flags) (input : List Char) : Option (GroupOpening × List Char) :=
  let named := fun input => (readName input).map fun (name, rest) => (.capture (some name), rest)
  match skip flags input with
  | '?' :: '=' :: _ | '?' :: '!' :: _ | '?' :: '<' :: '=' :: _ | '?' :: '<' :: '!' :: _ => none
  | '?' :: 'P' :: '<' :: rest => named rest
  | '?' :: '<' :: rest => named rest
  | '?' :: rest => do
    let (flags, seen, mark, rest) ← readFlags flags true [] rest
    if mark == ':' then return (.scope flags, rest)
    else if seen.isEmpty then none
    else return (.change flags, rest)
  | rest => some (.capture none, rest)

end Immutability.RegexText
