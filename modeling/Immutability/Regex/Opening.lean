import Immutability.CharSet.Encoding
import Immutability.Regex.Basic

/-!
# Openings of matches

An expression is described by how its matches open. An opening is whole if it is a match by itself. Descriptions
are kept short: long openings are cut, and an expression whose matches open in too many ways has none.
Assertions take no bytes and count as the empty text.
-/

set_option autoImplicit false

namespace Immutability

/-- How a match may open. -/
structure Opening where
  bytes : List Nat
  /-- The match that the opening is, if it is whole. -/
  text : Option (List Char)
deriving DecidableEq, Repr, Inhabited

namespace Opening

def maxChars : Nat := 10

def maxTimes : Nat := 10

def maxBytes : Nat := 100

def maxCount : Nat := 250

def ofText (text : List Char) : Opening := ⟨text.flatMap fun c => CharSet.encode c.toNat, some text⟩

def unfinished (opening : Opening) : Opening := { opening with text := none }

/-- The opening up to a number of bytes. It is not whole any more if something is cut off. -/
def cut (length : Nat) (opening : Opening) : Opening :=
  if opening.bytes.length ≤ length then opening else ⟨opening.bytes.take length, none⟩

def append (first second : Opening) : Opening :=
  ⟨first.bytes ++ second.bytes, first.text.bind fun text => second.text.map (text ++ ·)⟩

/-- Puts an opening in front of others. It becomes one with the first of them if they are the same, which is whole
if both are. -/
def prepend (first : Opening) (rest : List Opening) : List Opening :=
  match rest with
  | next :: more =>
    if first.bytes = next.bytes then { first with text := next.text.bind fun _ => first.text } :: more
    else first :: rest
  | [] => [first]

/-- The openings without those that are the same as the one before. -/
def distinct (openings : List Opening) : List Opening := openings.foldr prepend []

/-- The openings without those that begin with one before them. -/
def independent (openings : List Opening) : List Opening :=
  (openings.foldl (fun kept opening =>
    if kept.any fun earlier => earlier.bytes.isPrefixOf opening.bytes then kept
    else opening :: kept) []).reverse

def cutAll (length : Nat) (openings : List Opening) : List Opening := openings.map (cut length)

end Opening

/-- How the matches of an expression may open, in order of preference, unless there are too many ways. -/
abbrev Openings := Option (List Opening)

namespace Openings

def emptyText : Openings := some [.ofText []]

/-- Whether nothing that follows can make a difference. -/
def isClosed : Openings → Bool
  | some openings => openings.all (·.text.isNone)
  | none => true

def unfinished : Openings → Openings := Option.map (List.map Opening.unfinished)

/-- How matches open that begin so and may go on in too many ways. -/
def andAnything (openings : List Opening) : Openings :=
  if openings.any (·.bytes.isEmpty) then none else some (openings.map Opening.unfinished)

/-- How matches open that are matches of two expressions one after the other. -/
def cross : Openings → Openings → Openings
  | none, _ => none
  | some as, none => andAnything as
  | some as, some bs =>
    if Opening.maxCount < as.length * bs.length then andAnything as
    else
      some (Opening.cutAll Opening.maxBytes (Opening.distinct (as.flatMap fun a =>
        if a.text.isSome then bs.map a.append else [a])))

/-- How matches open that go on with a further part of a sequence. -/
def andThen (front next : Openings) : Openings := if front.isClosed then front else front.cross next

def sequence (parts : List Openings) : Openings := parts.foldl andThen emptyText

def union : Openings → Openings → Openings
  | some as, some bs =>
    if as.length + bs.length ≤ Opening.maxCount then some (Opening.distinct (as ++ bs))
    else
      let as := Opening.distinct (Opening.cutAll 4 as)
      let bs := Opening.distinct (Opening.cutAll 4 bs)
      if as.length + bs.length ≤ Opening.maxCount then some (Opening.distinct (as ++ bs)) else none
  | _, _ => none

def choice (branches : List Openings) : Openings := branches.foldl union (some [])

def repetition (body : Openings) (low : Nat) (high : Option Nat) (greedy : Bool) : Openings :=
  if low = 0 then
    let body := if high = some 1 then body else body.unfinished
    if greedy then body.union emptyText else emptyText.union body
  else
    let repeated := sequence (List.replicate (min low Opening.maxTimes) body)
    if high = some low && low ≤ Opening.maxTimes then repeated else repeated.unfinished

def ofSet (chars : CharSet) : Openings :=
  let points := chars.ranges.map fun range => (range.1, range.2 + 1 - range.1)
  let count := points.foldl (fun count run => count + run.2) 0
  if Opening.maxChars < count then none
  else
    some ((points.flatMap fun run => List.range' run.1 run.2).map fun point =>
      .ofText [Char.ofNat point])

end Openings

namespace Regex

/-- How matches open, for an expression or for each part of a sequence or an alternation. -/
inductive Outline where
  | one (openings : Openings)
  | sequence (parts : List Openings)
  | choice (branches : List Openings)

def Outline.openings : Outline → Openings
  | one openings => openings
  | sequence parts => .sequence parts
  | choice branches => .choice branches

def Outline.parts : Outline → List Openings
  | sequence parts => parts
  | outline => [outline.openings]

def Outline.branches : Outline → List Openings
  | choice branches => branches
  | outline => [outline.openings]

/-- How matches of an expression open, part by part. -/
def outline : Regex → Outline
  | empty => .one .emptyText
  | look _ => .one .emptyText
  | literal chars => .one (some [(Opening.ofText chars).cut Opening.maxBytes])
  | set chars _ => .one (.ofSet chars)
  | cat first rest => .sequence (first.outline.openings :: rest.outline.parts)
  | alt first rest => .choice (first.outline.openings :: rest.outline.branches)
  | rep body low high greedy => .one (body.outline.openings.repetition low high greedy)
  | group _ body => .one body.outline.openings

def openings (regex : Regex) : Openings := regex.outline.openings

end Regex

end Immutability
