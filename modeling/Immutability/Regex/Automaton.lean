import Immutability.Regex.Basic

/-!
# Matching

A regular expression is made into an automaton that reads a text one character at a time. After each
character it stands in several nodes at once, and in every place a match may start, so that a text is read once
only. The question is only whether some part of the text matches; which part does, and how, is not asked.
-/

set_option autoImplicit false

namespace Immutability

inductive Node where
  /-- Takes this character. -/
  | char (c : Char) (next : Nat)
  /-- Takes a character of a set. -/
  | set (chars : CharSet.Index) (next : Nat)
  /-- Goes on if an assertion holds. -/
  | look (assertion : Look) (next : Nat)
  /-- Goes on in two ways. -/
  | fork (first second : Nat)
  | accept
deriving DecidableEq, Repr, Inhabited

structure Automaton where
  nodes : Array Node
  start : Nat
deriving DecidableEq, Repr, Inhabited

/-! ### Building -/

/-- Nodes, and the one among them that was added last. -/
abbrev Fragment := Array Node × Nat

def Fragment.add (nodes : Array Node) (node : Node) : Fragment :=
  let added := nodes.size
  (nodes.push node, added)

/-- What was added a number of times in a row, each before the last. -/
def Fragment.times (body : Fragment → Fragment) : Nat → Fragment → Fragment
  | 0, built => built
  | count + 1, built => times body count (body built)

namespace Regex

/-- Adds the nodes of an expression in front of a node. -/
def build : Regex → Fragment → Fragment
  | empty, built => built
  | literal chars, built =>
    chars.reverse.foldl (fun (nodes, next) c => Fragment.add nodes (.char c next)) built
  | set chars _, (nodes, next) => Fragment.add nodes (.set chars.index next)
  | look assertion, (nodes, next) => Fragment.add nodes (.look assertion next)
  | cat first rest, built => first.build (rest.build built)
  | alt first rest, (nodes, next) =>
    let (nodes, second) := rest.build (nodes, next)
    let (nodes, first) := first.build (nodes, next)
    Fragment.add nodes (.fork first second)
  | rep body low high _, (nodes, next) =>
    let optional : Fragment → Fragment := fun built =>
      let (nodes, first) := body.build built
      Fragment.add nodes (.fork first next)
    let owed := match high with
      | some high => Fragment.times optional (high - low) (nodes, next)
      | none =>
        let loop := nodes.size
        let (nodes, first) := body.build (nodes.push (.fork next next), loop)
        (nodes.setIfInBounds loop (.fork first next), loop)
    Fragment.times body.build low owed
  | group _ body, built => body.build built

def automaton (regex : Regex) : Automaton :=
  let (nodes, start) := regex.build (#[.accept], 0)
  { nodes, start }

end Regex

/-! ### Running -/

namespace Automaton

structure Standing where
  /-- Whether a match has ended. -/
  accepted : Bool := false
  /-- Nodes that wait for a character. -/
  waiting : List Nat := []
  /-- For each node the last place in which it was reached. -/
  reached : Array Nat

/-- Goes on from nodes between two characters as far as no character is taken. The places are numbered from one.
Each node is entered once in a place, so the fuel is the number of nodes to go on from and twice the
number of nodes. -/
def settle (nodes : Array Node) (before after : Option Char) (place : Nat) :
    Nat → List Nat → Standing → Standing
  | 0, _, standing => standing
  | _ + 1, [], standing => standing
  | fuel + 1, node :: rest, { accepted, waiting, reached } =>
    if reached.getD node place == place then
      settle nodes before after place fuel rest { accepted, waiting, reached }
    else
      let reached := reached.setIfInBounds node place
      match nodes[node]? with
      | some (.char _ _) | some (.set _ _) =>
        settle nodes before after place fuel rest { accepted, waiting := node :: waiting, reached }
      | some (.look assertion next) =>
        let rest := if assertion.holds before after then next :: rest else rest
        settle nodes before after place fuel rest { accepted, waiting, reached }
      | some (.fork first second) =>
        settle nodes before after place fuel (first :: second :: rest) { accepted, waiting, reached }
      | some .accept => { accepted := true, waiting, reached }
      | none => settle nodes before after place fuel rest { accepted, waiting, reached }

/-- The node behind one that takes this character. -/
def take? (nodes : Array Node) (c : Char) (node : Nat) : Option Nat :=
  match nodes[node]? with
  | some (.char d next) => if c == d then some next else none
  | some (.set chars next) => if chars.contains c then some next else none
  | _ => none

/-- Goes on from nodes that were come to, and from the start. -/
def settleAll (automaton : Automaton) (before after : Option Char) (place : Nat) (entered : List Nat)
    (reached : Array Nat) : Standing :=
  settle automaton.nodes before after place (entered.length + 2 * automaton.nodes.size + 2)
    (automaton.start :: entered) { reached }

/-- Whether a match ends in this place or later, given the nodes that were come to. -/
def search (automaton : Automaton) (before : Option Char) (place : Nat) (entered : List Nat)
    (reached : Array Nat) : List Char → Bool
  | [] => (automaton.settleAll before none place entered reached).accepted
  | c :: rest =>
    match automaton.settleAll before (some c) place entered reached with
    | { accepted, waiting, reached } =>
      accepted ||
        automaton.search (some c) (place + 1) (waiting.filterMap (take? automaton.nodes c)) reached rest

/-- Whether some part of a text matches. -/
def isMatch (automaton : Automaton) (text : String) : Bool :=
  automaton.search none 1 [] (Array.replicate automaton.nodes.size 0) text.toList

end Automaton

end Immutability
