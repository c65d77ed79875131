import Immutability.Rule.Basic
import Immutability.Trace
import Immutability.Walk

/-!
# The classification machine

A type is classified on an explicit stack of frames, one for each type under way, so that deep and cyclic
graphs cost no depth of recursion. Entering a type looks it up in the cache, then among the rules, marks
it as being calculated and begins a walk over it. A type that is entered again while it is under way
contributes nothing, which is why cycles end.

The machine moves in steps. Each step resumes the walk on top of the stack: it enters the child that the
walk asks for, or takes the frame off and hands its verdict to the one below.
-/

set_option autoImplicit false

namespace Immutability

variable {σ : Type}

/-- What a classification reads and changes: the host's state, the cache and the journal. -/
structure Context (σ : Type) where
  state : σ
  cache : Cache := {}
  journal : Journal := {}

namespace Context

def note (context : Context σ) (event : Unit → Event) : Context σ :=
  { context with journal := context.journal.note event }

/-- The key that reads use for a type. -/
def key (host : Host σ) (context : Context σ) (ref : TypeRef) : CacheKey :=
  ref.key (host.identity context.state ref.id)

def consult (host : Host σ) (ref : TypeRef) (threshold : Level) (context : Context σ) :
    Option Status × Context σ :=
  let key := context.key host ref
  match context.cache.lookup key (.known threshold) with
  | .absent => (none, context)
  | .below value => (none, context.note fun _ => .cacheBelow key value)
  | .hit value => (some value, context.note fun _ => .cacheHit key value)

def record (host : Host σ) (ref : TypeRef) (entry : Entry) (context : Context σ) : Context σ :=
  { context with
    cache := context.cache.record ref (host.identity context.state ref.id) entry }

def list (host : Host σ) (id : TypeId) (context : Context σ) : List Property × Context σ :=
  let listing := host.properties context.state id
  let journal := listing.registered.foldl
    (fun journal type => journal.note fun _ => .typeRegistered type) context.journal
  (listing.properties, { context with state := listing.state, journal })

end Context

/-- A rule that waits for the verdict to see whether it applies. -/
structure PendingRule where
  origin : Status
  target : Status
deriving DecidableEq, Repr

/-- A type under way. -/
structure Frame where
  ref : TypeRef
  /-- The threshold for this type and its children. -/
  threshold : Level
  pending : Option PendingRule
  task : Task
deriving DecidableEq, Repr

inductive Approach where
  | leaf (verdict : Verdict)
  | walk (task : Task)
deriving DecidableEq, Repr

def approach (host : Host σ) (id : TypeId) (shape : Shape) (threshold : Level)
    (context : Context σ) : Approach × Context σ :=
  match shape with
  | .error => (.leaf .unknown, context)
  | .primitive => (.leaf (.known .immutable), context)
  | .union members => (.walk (.least { rest := members.map fun id => { id } }), context)
  | .conditional whenTrue whenFalse =>
    (.walk (.least { rest := [whenTrue, whenFalse] }), context)
  | .intersection members =>
    let (properties, context) := context.list host id
    (.walk (.object
      { id, isTuple := false, sources := members, upper := threshold, stage := .scan properties }),
      context)
  | .object kind =>
    let (properties, context) := context.list host id
    let surface := fun isTuple : Bool =>
      ({ id, isTuple, sources := [id], upper := threshold, stage := .scan properties } : ObjectWalk)
    if properties.isEmpty && host.callable context.state id then
      (.leaf (.known .immutable), context)
    else
      match kind with
      | .tuple false => (.leaf (.known .mutable), context)
      | .tuple true => (.walk (.array (.container (surface true) threshold)), context)
      | .array => (.walk (.array (.container (surface false) threshold)), context)
      | .plain => (.walk (.object (surface false)), context)

/-- Files the verdict of a type, after a pending rule had its say, and gives what was filed. -/
def conclude (host : Host σ) (ref : TypeRef) (threshold : Level) (pending : Option PendingRule)
    (verdict : Verdict) (context : Context σ) : Status × Context σ :=
  match pending with
  | some rule =>
    if (Status.settled verdict).isBetween rule.origin rule.target then
      let context := context.note fun _ => .ruleApplied ref.id verdict rule.target
      (rule.target, context.record host ref { value := rule.target })
    else (verdict, context.record host ref { value := verdict, ceiling := .known threshold })
  | none => (verdict, context.record host ref { value := verdict, ceiling := .known threshold })

inductive Entered where
  /-- The status is known at once. -/
  | ready (status : Status)
  /-- A walk has to be made. -/
  | frame (frame : Frame)
deriving DecidableEq, Repr

/-- Marks a type and begins to find its verdict. -/
def descend (host : Host σ) (ref : TypeRef) (shape : Shape) (threshold : Level)
    (pending : Option PendingRule) (context : Context σ) : Entered × Context σ :=
  let context := context.record host ref .inProgress
  let context := context.note fun _ => .markedCalculating ref.id
  match approach host ref.id shape threshold context with
  | (.leaf verdict, context) =>
    let (status, context) := conclude host ref threshold pending verdict context
    (.ready status, context)
  | (.walk task, context) => (.frame { ref, threshold, pending, task }, context)

/-- Enters a type that the cache does not answer. A rule without an origin settles the type at once; one
with an origin needs the verdict up to the highest threshold. -/
def visit (host : Host σ) (rules : List Rule) (ref : TypeRef) (threshold : Level)
    (context : Context σ) : Entered × Context σ :=
  let shape := host.shape context.state ref.id
  if shape = .error then (.ready .unknown, context.note fun _ => .errorIgnored ref.id)
  else if rules.isEmpty then descend host ref shape threshold none context
  else
    match Rule.find? rules (host.subject context.state ref) with
    | none => descend host ref shape threshold none context
    | some rule =>
      let context := context.note fun _ => .ruleMatched ref.id rule.target rule.origin
      match rule.origin with
      | none => (.ready rule.target, context.record host ref { value := rule.target })
      | some origin =>
        descend host ref shape .immutable (some { origin, target := rule.target }) context

def enter (host : Host σ) (rules : List Rule) (ref : TypeRef) (threshold : Level)
    (context : Context σ) : Entered × Context σ :=
  match context.consult host ref threshold with
  | (some status, context) => (.ready status, context)
  | (none, context) => visit host rules ref threshold context

/-- A classification under way. -/
structure Machine (σ : Type) where
  context : Context σ
  /-- The types under way, innermost first. -/
  stack : List Frame
  /-- The verdict that the innermost walk waits for, once it is known. -/
  answer : Option Verdict := none

inductive Progress (σ : Type) where
  | running (machine : Machine σ)
  | ended (verdict : Verdict) (context : Context σ)
  | failed (fault : Fault)

namespace Machine

def push (machine : Machine σ) (frame : Frame) : Machine σ where
  context := machine.context.note fun _ => .framePushed frame.ref.id machine.stack.length
  stack := frame :: machine.stack
  answer := none

/-- Enters the child of a walk: its status answers the walk, or its frame goes on top. -/
def ask (host : Host σ) (rules : List Rule) (child : TypeRef) (threshold : Level)
    (machine : Machine σ) : Machine σ :=
  match enter host rules child threshold machine.context with
  | (.ready status, context) => { machine with context, answer := some status.settle }
  | (.frame frame, context) => push { machine with context } frame

/-- Takes a frame off, files its verdict and hands it to the frame below. -/
def resolve (host : Host σ) (frame : Frame) (rest : List Frame) (verdict : Verdict)
    (context : Context σ) : Progress σ :=
  let context := context.note fun _ => .frameResolved frame.ref.id rest.length verdict
  match conclude host frame.ref frame.threshold frame.pending verdict context, rest with
  | (.settled verdict, context), [] => .ended verdict context
  | (.settled verdict, context), rest => .running { context, stack := rest, answer := some verdict }
  | (.calculating, _), [] => .failed (.endedCalculating frame.ref.id)
  | (.calculating, _), _ => .failed .calculatingOperand

def step (host : Host σ) (rules : List Rule) (machine : Machine σ) : Progress σ :=
  match machine.stack with
  | [] => .ended (machine.answer.getD .unknown) machine.context
  | frame :: rest =>
    match frame.task.resume host machine.context.state machine.answer with
    | .await child task =>
      .running (ask host rules child frame.threshold
        { machine with stack := { frame with task } :: rest, answer := none })
    | .done verdict => resolve host frame rest verdict machine.context

structure Answer (σ : Type) where
  status : Status
  /-- Whether the answer came straight from the cache. -/
  cacheHit : Bool
  context : Context σ

def loop (host : Host σ) (rules : List Rule) : Nat → Machine σ → Except Fault (Answer σ)
  | 0, _ => .error .stepsSpent
  | steps + 1, machine =>
    match machine.step host rules with
    | .running machine => loop host rules steps machine
    | .ended verdict context => .ok { status := verdict, cacheHit := false, context }
    | .failed fault => .error fault

/-- Classifies a type up to a threshold in at most so many steps. -/
def run (host : Host σ) (rules : List Rule) (steps : Nat) (root : TypeRef) (threshold : Level)
    (context : Context σ) : Except Fault (Answer σ) :=
  match context.consult host root threshold with
  | (some .calculating, _) => .error (.stillCalculating root.id)
  | (some status, context) => .ok { status, cacheHit := true, context }
  | (none, context) =>
    match enter host rules root threshold context with
    | (.ready status, context) => .ok { status, cacheHit := false, context }
    | (.frame frame, context) => loop host rules steps (push { context, stack := [] } frame)

end Machine

end Immutability
