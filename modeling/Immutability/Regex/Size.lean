import Immutability.Regex.Basic
import Immutability.Regex.Tally

/-!
# Size of a pattern

A pattern is refused if an automaton for it would be too large. There are two such automata. One reads a text
forwards and marks where groups start and end, the other reads it backwards. Neither may be larger than
`sizeLimit`. States are counted in the order in which they are made, and a repetition that adds the same each
time is counted once and multiplied, so that a pattern may ask for any number of repetitions.
-/

set_option autoImplicit false

namespace Immutability

/-! ### Alternatives of literals -/

/-- What follows a byte that several literals begin with, latest first. -/
structure ByteGroup where
  first : Nat
  rests : List (List Nat)

/-- Adds what follows a byte to its group. -/
def addToGroup (first : Nat) (rest : List Nat) : List ByteGroup → List ByteGroup
  | [] => [⟨first, [rest]⟩]
  | group :: groups =>
    if group.first = first then { group with rests := rest :: group.rests } :: groups
    else group :: addToGroup first rest groups

/-- Literals in groups by their first byte. Where one of them ends a new list of groups begins, because those
before it are tried first. -/
def literalChunks (literals : List (List Nat)) : List (List ByteGroup) :=
  let (ended, last) := literals.foldl (fun (ended, groups) literal =>
    match literal with
    | first :: rest => (ended, addToGroup first rest groups)
    | [] =>
      if groups.isEmpty && !ended.isEmpty && ended.all List.isEmpty then (ended, groups)
      else (groups :: ended, [])) (([] : List (List ByteGroup)), ([] : List ByteGroup))
  last :: ended

/-- Counts the states that read one of the literals, which are no longer than the fuel. -/
def literalsTally : Nat → List (List Nat) → Tally
  | 0, _ => {}
  | fuel + 1, literals =>
    let chunks := literalChunks literals
    let filled := chunks.filter (!·.isEmpty)
    let chunkTally := fun (groups : List ByteGroup) =>
      let ways := if groups.length == 1 then 0 else byteEdgeSize * groups.length
      groups.foldl (fun tally group => tally.join (literalsTally fuel group.rests.reverse)) ⟨1, ways⟩
    if filled.isEmpty then {}
    else
      filled.foldl (fun tally groups => tally.join (chunkTally groups))
        ⟨1, edgeSize * (filled.length + (chunks.length - 1))⟩

namespace Regex

/-! ### Expressions -/

/-- The least number of bytes that a match takes, if there can be one. -/
def leastLength : Regex → Option Nat
  | empty => some 0
  | literal chars => some (chars.map fun c => (CharSet.encode c.toNat).length).sum
  | set chars _ => chars.ranges.head?.map fun (low, _) => (CharSet.encode low).length
  | look _ => some 0
  | cat first rest => do return (← first.leastLength) + (← rest.leastLength)
  | alt first rest => do return min (← first.leastLength) (← rest.leastLength)
  | rep body low _ _ => body.leastLength.map (low * ·)
  | group _ body => body.leastLength

def bytes? : Regex → Option (List Nat)
  | literal chars => some (chars.flatMap fun c => CharSet.encode c.toNat)
  | _ => none

/-- The literals of an alternation that has no other branches. -/
def literals? (regex : Regex) : Option (List (List Nat)) := regex.branches.mapM bytes?

def alternativesTally (direction : Direction) (literals : List (List Nat)) : Tally :=
  let literals := match direction with
    | .forwards => literals
    | .backwards => literals.map List.reverse
  let longest := (literals.map List.length).foldl max 0
  (literalsTally (longest + 1) literals).more 1 0

/-- Counts what an alternation adds after a branch, given how many branches are before that. Once two branches
are made, the state before them and the state behind them are made. -/
def endBranch : Nat → Tally → Tally
  | 0, tally => tally
  | 1, tally => tally.more 2 (2 * edgeSize)
  | _, tally => tally.more 0 edgeSize

/-- Whether an expression adds the same wherever it stands. -/
def addsSame : Regex → Bool
  | set chars _ => chars.isAscii
  | cat first rest => first.addsSame && rest.addsSame
  | alt first rest => first.addsSame && rest.addsSame
  | rep body _ _ _ => body.addsSame
  | group _ body => body.addsSame
  | _ => true

/-- Counts the states of an expression a number of times, given how to count them once and whether they are
always the same. -/
def tallyTimes (same : Bool) (once : Tally → Tally) (count : Nat) (tally : Tally) : Tally :=
  if same then tally.scale (once tally) count else tally.iterate once count

/-- Counts the states of a repetition, given how to count those of its body, whether they are always the same,
and whether the body takes a character. -/
def tallyRepetition (same takes : Bool) (body : Tally → Tally) (tally : Tally) : Nat → Option Nat → Tally
  | 0, none =>
    if takes then body (tally.more 1 (2 * edgeSize)) else (body tally).more 3 (4 * edgeSize)
  | low, none => (tallyTimes same body low tally).more 1 (2 * edgeSize)
  | 0, some 1 => (body (tally.more 1 (2 * edgeSize))).more 1 0
  | low, some high =>
    if low == high then tallyTimes same body low tally
    else
      let least := if low == 0 then tally.more 1 0 else tallyTimes same body low tally
      tallyTimes same (fun tally => body (tally.more 1 (2 * edgeSize))) (high - low) (least.more 1 0)

/-- Counts the states of an expression that has so many branches of its alternation before it. -/
def tally (direction : Direction) : Regex → Nat → Tally → Tally
  | alt first rest, branch, before =>
    match if branch == 0 then literals? (alt first rest) else none with
    | some literals => before.join (alternativesTally direction literals)
    | none => rest.tally direction (branch + 1) (endBranch branch (first.tally direction 0 before))
  | empty, branch, before => endBranch branch (before.more 1 0)
  | literal chars, branch, before =>
    endBranch branch (before.more (chars.map fun c => (CharSet.encode c.toNat).length).sum 0)
  | set chars _, branch, before => endBranch branch (chars.tally direction before)
  | look _, branch, before => endBranch branch (before.more 1 0)
  | cat first rest, branch, before =>
    endBranch branch (match direction with
      | .forwards => rest.tally direction 0 (first.tally direction 0 before)
      | .backwards => first.tally direction 0 (rest.tally direction 0 before))
  | rep body low high _, branch, before =>
    let takes := match body.leastLength with
      | some length => decide (0 < length)
      | none => false
    endBranch branch (tallyRepetition body.addsSame takes (body.tally direction 0) before low high)
  | group _ body, branch, before =>
    endBranch branch (match direction with
      | .forwards => (body.tally direction 0 (before.more 1 0)).more 1 0
      | .backwards => body.tally direction 0 before)

/-- Whether every match starts at the start of the text. -/
def startsAtStart : Regex → Bool
  | look assertion => assertion == .textStart
  | cat first rest => first.startsAtStart || (first.onlyEmpty && rest.startsAtStart)
  | alt first rest => first.startsAtStart && rest.startsAtStart
  | rep body low _ _ => low != 0 && body.startsAtStart
  | group _ body => body.startsAtStart
  | _ => false

/-- Whether every match ends at the end of the text. -/
def endsAtEnd : Regex → Bool
  | look assertion => assertion == .textEnd
  | cat first rest => rest.endsAtEnd || (rest.onlyEmpty && first.endsAtEnd)
  | alt first rest => first.endsAtEnd && rest.endsAtEnd
  | rep body low _ _ => low != 0 && body.endsAtEnd
  | group _ body => body.endsAtEnd
  | _ => false

/-- Counts the automaton that reads in a direction. It has states that skip bytes before a match if a match may
start later, marks around the whole as around a group, and a state for the match. -/
def automatonTally (regex : Regex) (direction : Direction) : Tally :=
  let anchored := match direction with
    | .forwards => regex.startsAtStart
    | .backwards => regex.endsAtEnd
  let skipping := if anchored then ⟨1, 0⟩ else ⟨3, byteEdgeSize + 2 * edgeSize⟩
  ((group 0 regex).tally direction 0 skipping).more 1 0

def fits (regex : Regex) : Bool :=
  (regex.automatonTally .backwards).size ≤ sizeLimit && (regex.automatonTally .forwards).size ≤ sizeLimit

end Regex

end Immutability
