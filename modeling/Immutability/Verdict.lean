import Immutability.Fault
import Immutability.Level

/-!
# Verdicts and statuses

A verdict is a level or nothing at all. "Unknown" is the identity of both `meet` and `join`, so taking
it into a reduction never moves the result. A status is a verdict or the mark of a type whose
classification is under way. The mark lives in caches and rules only; lattice operations refuse it.

Two sentinels stand outside the order: each is comparable to itself alone.
-/

set_option autoImplicit false

namespace Immutability

/-- What is known about the immutability of a type. -/
inductive Verdict where
  /-- Nothing was ever learned. -/
  | unknown
  /-- The level that was found. -/
  | known (level : Level)
deriving DecidableEq, Repr, Inhabited

namespace Verdict

instance : Coe Level Verdict := ⟨known⟩

/-- The lesser of two verdicts; an unknown one is ignored. -/
def meet : Verdict → Verdict → Verdict
  | unknown, b => b
  | a, unknown => a
  | known a, known b => known (min a b)

/-- The greater of two verdicts; an unknown one is ignored. -/
def join : Verdict → Verdict → Verdict
  | unknown, b => b
  | a, unknown => a
  | known a, known b => known (max a b)

@[simp] theorem meet_unknown (a : Verdict) : a.meet unknown = a := by cases a <;> rfl

@[simp] theorem unknown_meet (a : Verdict) : unknown.meet a = a := rfl

@[simp] theorem join_unknown (a : Verdict) : a.join unknown = a := by cases a <;> rfl

@[simp] theorem unknown_join (a : Verdict) : unknown.join a = a := rfl

theorem meet_comm (a b : Verdict) : a.meet b = b.meet a := by
  cases a <;> cases b <;> simp [meet, Level.min_comm]

theorem meet_assoc (a b c : Verdict) : (a.meet b).meet c = a.meet (b.meet c) := by
  cases a <;> cases b <;> cases c <;> simp [meet, Level.min_assoc]

theorem join_comm (a b : Verdict) : a.join b = b.join a := by
  cases a <;> cases b <;> simp [join, Level.max_comm]

theorem join_assoc (a b c : Verdict) : (a.join b).join c = a.join (b.join c) := by
  cases a <;> cases b <;> cases c <;> simp [join, Level.max_assoc]

end Verdict

/-- A level lowered to a verdict where the verdict is known and lower. -/
def Level.cap (level : Level) : Verdict → Level
  | .unknown => level
  | .known bound => min level bound

/-- Capping lowers a level as the lesser of two verdicts. -/
theorem Verdict.known_meet (level : Level) (verdict : Verdict) :
    (known level).meet verdict = known (level.cap verdict) := by
  cases verdict <;> rfl

/-- What a cache or a rule holds for a type. -/
inductive Status where
  /-- The classification is under way. -/
  | calculating
  /-- The classification ended, or a verdict was set. -/
  | settled (verdict : Verdict)
deriving DecidableEq, Repr, Inhabited

namespace Status

instance : Coe Verdict Status := ⟨settled⟩

@[match_pattern] abbrev known (level : Level) : Status := settled (.known level)

/-- The status of a type of which nothing was learned. -/
@[match_pattern] abbrev unknown : Status := settled .unknown

def level? : Status → Option Level
  | known level => some level
  | _ => none

def name : Status → String
  | calculating => "Calculating"
  | unknown => "Unknown"
  | known level => level.name

def all : List Status := unknown :: calculating :: Level.all.map known

/-- The status of this exact name. -/
def ofName? (text : String) : Option Status := all.find? (·.name == text)

/-- How two statuses compare: levels by their order, a sentinel with itself only. -/
def compare? : Status → Status → Option Ordering
  | known a, known b => some (compare a.rank b.rank)
  | a, b => if a = b then some .eq else none

def isAtLeast (a b : Status) : Bool :=
  match a.compare? b with
  | some .gt | some .eq => true
  | _ => false

@[simp] theorem isAtLeast_known (a b : Level) : (known a).isAtLeast (known b) = decide (b ≤ a) := by
  cases a <;> cases b <;> decide

/-- Whether a status lies between two others, ends included, in either direction. -/
def isBetween (status a b : Status) : Bool :=
  (status.isAtLeast a && b.isAtLeast status) || (a.isAtLeast status && status.isAtLeast b)

def isUnknown (status : Status) : Bool := status == unknown

def isCalculating (status : Status) : Bool := status == calculating

def isKnown (status : Status) : Bool := status.level?.isSome

def isImmutable (status : Status) : Bool := status.isAtLeast (known .immutable)

def isReadonlyDeep (status : Status) : Bool := status.isAtLeast (known .readonlyDeep)

def isReadonlyShallow (status : Status) : Bool := status.isAtLeast (known .readonlyShallow)

def isMutable (status : Status) : Bool :=
  match status.compare? (known .mutable) with
  | some .lt | some .eq => true
  | _ => false

/-- The verdict a parent may use: a type under way contributes nothing. -/
def settle : Status → Verdict
  | calculating => .unknown
  | settled verdict => verdict

/-- The verdict of a status that is an operand of a lattice operation. -/
def verdict : Status → Except Fault Verdict
  | calculating => .error .calculatingOperand
  | settled verdict => .ok verdict

/-- The lesser of two statuses that are not under way. -/
def meet (a b : Status) : Except Fault Status := do
  let a ← a.verdict
  let b ← b.verdict
  return a.meet b

/-- The greater of two statuses that are not under way. -/
def join (a b : Status) : Except Fault Status := do
  let a ← a.verdict
  let b ← b.verdict
  return a.join b

/-- A status moved up to `lower` after it was moved down to `upper`. -/
def clamp (lower status upper : Status) : Except Fault Status := do
  lower.join (← upper.meet status)

end Status

end Immutability
