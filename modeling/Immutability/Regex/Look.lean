import Immutability.CharSet.Index
import Immutability.Unicode.Binary

/-!
# Assertions about places

An assertion says something about the place between two characters and takes none of them.
-/

set_option autoImplicit false

namespace Immutability

/-- How the characters around a place are words or not. -/
inductive WordEdge where
  /-- A word character stands on one side only. -/
  | boundary
  /-- Word characters stand on both sides or on none. -/
  | inside
  | start
  | finish
  /-- No word character stands before. -/
  | startHalf
  /-- No word character stands after. -/
  | finishHalf
deriving DecidableEq, Repr

/-- An assertion about the place between two characters. -/
inductive Look where
  | textStart
  | textEnd
  | lineStart
  | lineEnd
  /-- Start of a line where a carriage return may end one. -/
  | crlfLineStart
  /-- End of a line where a carriage return may end one. -/
  | crlfLineEnd
  /-- An edge of words, which are made of ASCII characters only or of all word characters. -/
  | word (asciiOnly : Bool) (edge : WordEdge)
deriving DecidableEq, Repr

/-- The characters that make up words, for looking them up. -/
def wordIndex : CharSet.Index := Unicode.word.index

def isWordChar (asciiOnly : Bool) (c : Char) : Bool :=
  if c.toNat < 0x80 then c.isAlphanum || c == '_' else !asciiOnly && wordIndex.contains c

/-- Whether an edge lies where word characters stand before and after as told. -/
def WordEdge.holds (before after : Bool) : WordEdge → Bool
  | boundary => before != after
  | inside => before == after
  | start => !before && after
  | finish => before && !after
  | startHalf => !before
  | finishHalf => !after

/-- Whether an assertion holds between two characters; at an end of the text there is none. -/
def Look.holds (before after : Option Char) : Look → Bool
  | textStart => before.isNone
  | textEnd => after.isNone
  | lineStart => before.isNone || before == some '\n'
  | lineEnd => after.isNone || after == some '\n'
  | crlfLineStart =>
    before.isNone || before == some '\n' || (before == some '\r' && after != some '\n')
  | crlfLineEnd =>
    after.isNone || after == some '\r' || (after == some '\n' && before != some '\r')
  | word asciiOnly edge =>
    edge.holds (before.any (isWordChar asciiOnly)) (after.any (isWordChar asciiOnly))

end Immutability
