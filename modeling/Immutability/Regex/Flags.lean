import Immutability.Text.Blank
import Immutability.Unicode.Fold

/-!
# Flags of patterns

How the characters of a pattern are understood, and what follows from that for blanks and for sets of
characters.
-/

set_option autoImplicit false

namespace Immutability.RegexText

/-- How the characters of a pattern are understood. -/
structure Flags where
  ignoreCase : Bool := false
  multiLine : Bool := false
  dotMatchesNewline : Bool := false
  verbose : Bool := false
  crlf : Bool := false
  /-- Whether repetitions are reluctant unless marked, and greedy if marked. -/
  reluctant : Bool := false
  /-- Whether classes and case are those of all scripts, and not of ASCII only. -/
  unicode : Bool := true
deriving DecidableEq, Repr, Inhabited

/-- Sets or clears the flag of a letter. -/
def Flags.change? (flags : Flags) (on : Bool) : Char → Option Flags
  | 'i' => some { flags with ignoreCase := on }
  | 'm' => some { flags with multiLine := on }
  | 's' => some { flags with dotMatchesNewline := on }
  | 'x' => some { flags with verbose := on }
  | 'R' => some { flags with crlf := on }
  | 'u' => some { flags with unicode := on }
  | 'U' => some { flags with reluctant := on }
  | _ => none

/-! ### Blanks -/

/-- The rest behind blanks and comments, which may begin inside a comment. -/
def skipFrom (inComment : Bool) : List Char → List Char
  | [] => []
  | c :: rest =>
    if inComment then skipFrom (c != '\n') rest
    else if Text.isBlank c then skipFrom false rest
    else if c == '#' then skipFrom true rest
    else c :: rest

/-- The rest behind blanks and comments where they mean nothing. -/
def skip (flags : Flags) (input : List Char) : List Char :=
  if flags.verbose then skipFrom false input else input

/-- The next character that means something, as far as it is told without reading on: where a comment
begins, it is the first one inside the comment that is no blank. -/
def peek? (flags : Flags) (input : List Char) : Option Char :=
  if !flags.verbose then input.head?
  else
    let found := match input.dropWhile Text.isBlank with
      | '#' :: comment => comment.dropWhile Text.isBlank
      | rest => rest
    found.head?.or input.head?

/-! ### Sets -/

/-- The set closed under case where case is ignored. -/
def foldSet (flags : Flags) (set : CharSet) : CharSet :=
  if !flags.ignoreCase then set
  else if flags.unicode then set.closeCase
  else set.closeAsciiCase

/-- The set, or what is not in it. Among bytes there is no such set, for it would divide characters. -/
def negate? (flags : Flags) (negated : Bool) (set : CharSet) : Option CharSet :=
  if !negated then some set
  else if flags.unicode then some set.compl
  else none

end Immutability.RegexText
