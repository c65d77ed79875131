import Std.Data.TreeMap
import Immutability.CharSet.Encoding
import Immutability.Hash

/-!
# Counting states

The size of an automaton that reads bytes is counted without building it. Each state counts `stateSize`, each
way out of a state that has several counts `edgeSize`, and each way that depends on a byte counts
`byteEdgeSize`.

States are numbered as they are made. A set of characters is read by states that are used again where the same
state was made before for the same set and is still remembered. Memory has a fixed number of places, a state
belongs to the place that its hash says, and the latest state of a place is remembered. The hash depends on the
numbers of states, so what a set adds depends on how many states were made before it.
-/

set_option autoImplicit false

namespace Immutability

def stateSize : Nat := 32

/-- Size of a way out of a state that has several. -/
def edgeSize : Nat := 4

/-- Size of a way out of a state that depends on a byte. -/
def byteEdgeSize : Nat := 8

def sizeLimit : Nat := 10485760

inductive Direction where
  | forwards
  | backwards
deriving DecidableEq, Repr

/-- What was counted: states, and the size of the ways out of them. -/
structure Tally where
  states : Nat := 0
  ways : Nat := 0
deriving DecidableEq, Repr

namespace Tally

def size (tally : Tally) : Nat := stateSize * tally.states + tally.ways

/-- Counts more states, and ways of this size in all. -/
def more (tally : Tally) (states ways : Nat) : Tally :=
  { states := tally.states + states, ways := tally.ways + ways }

def join (tally other : Tally) : Tally := tally.more other.states other.ways

/-- Counts what was added between two tallies a number of times. -/
def scale (before after : Tally) (count : Nat) : Tally :=
  before.more (count * (after.states - before.states)) (count * (after.ways - before.ways))

/-- Takes a step a number of times, or until the size is over the limit. -/
def iterate (step : Tally → Tally) : Nat → Tally → Tally
  | 0, tally => tally
  | count + 1, tally => if sizeLimit < tally.size then tally else iterate step count (step tally)

end Tally

/-! ### Remembered states -/

/-- What was counted, and the states that are remembered: at its place, what a state reads, and its number. -/
structure Memory where
  tally : Tally
  remembered : Std.TreeMap Nat (List Nat × Nat) := {}

/-- Makes a state that reads `key`, with ways out of this size, and remembers it at a place. -/
def Memory.make (memory : Memory) (place : Nat) (key : List Nat) (ways : Nat) : Nat × Memory :=
  let state := memory.tally.states
  (state,
    { tally := memory.tally.more 1 ways
      remembered := memory.remembered.insert place (key, state) })

/-- The number of the state that reads `key`, in a memory of so many places. It is made, with ways out of this
size, if it is not remembered. -/
def Memory.state (places : Nat) (memory : Memory) (key : List Nat) (ways : Nat) : Nat × Memory :=
  let place := (Hash.ofNumbers key).toNat % places
  match memory.remembered[place]? with
  | some (other, state) => if other == key then (state, memory) else memory.make place key ways
  | none => memory.make place key ways

namespace CharSet

/-- How many places memory has for states that read forwards. -/
def forwardPlaces : Nat := 10000

/-- How many places memory has for states that read backwards. -/
def backwardPlaces : Nat := 1000

/-- Sequences in groups that begin with the same byte range, with what follows it. -/
def groupByFirst (sequences : List (List (Nat × Nat))) : List ((Nat × Nat) × List (List (Nat × Nat))) :=
  sequences.foldr (fun sequence groups =>
    match sequence, groups with
    | first :: rest, (other, rests) :: groups =>
      if first = other then (other, (rest :: rests)) :: groups
      else (first, [rest]) :: (other, rests) :: groups
    | first :: rest, [] => [(first, [rest])]
    | [], groups => groups) []

/-- The state from which these sequences lead to the target. It is made after the states that it leads to. No
sequence is longer than the fuel. -/
def stateBefore (target : Nat) : Nat → Memory → List (List (Nat × Nat)) → Nat × Memory
  | 0, memory, _ => (target, memory)
  | fuel + 1, memory, sequences =>
    match groupByFirst sequences with
    | [] => (target, memory)
    | groups =>
      let (key, memory) := groups.foldl (fun (key, memory) ((low, high), rests) =>
        let (next, memory) := stateBefore target fuel memory rests
        (next :: high :: low :: key, memory)) ([], memory)
      memory.state forwardPlaces key.reverse (byteEdgeSize * groups.length)

/-- Makes the states that read a sequence backwards and then lead to the target. -/
def readBackwards (memory : Memory) (target : Nat) (sequence : List (Nat × Nat)) : Memory :=
  let (_, memory) := sequence.foldl (fun (next, memory) (low, high) =>
    memory.state backwardPlaces [next, low, high] 0) (target, memory)
  { memory with tally := memory.tally.more 0 edgeSize }

def tally (set : CharSet) (direction : Direction) (before : Tally) : Tally :=
  if set.isAscii then before.more 2 (byteEdgeSize * set.ranges.length)
  else
    match direction with
    | .forwards =>
      (stateBefore before.states 5 { tally := before.more 1 0 } set.byteRanges).2.tally
    | .backwards =>
      (set.byteRanges.foldl (readBackwards · (before.states + 1)) { tally := before.more 2 0 }).tally

end CharSet

end Immutability
