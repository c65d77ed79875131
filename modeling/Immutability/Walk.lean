import Immutability.Host
import Immutability.Verdict

/-!
# Walks over a type

A walk finds the verdict of one type from the verdicts of its children. It is resumed with the verdict of
the child it asked for last, and either asks for the next child or ends. No walk descends by itself.

* `Least` takes the least verdict of some types and ends early at the lowest level.
* `ObjectWalk` looks at the surface of an object: at fields that can be written, then at the types of its
  properties, its type arguments, its string and its number index signatures. Its upper bound starts at the
  threshold and only falls, its lower bound rises once no field can be written, and the walk ends when the
  two meet.
* `ArrayWalk` walks over an array as an object and then over its element types, which can lift it no higher
  than read-only on the surface.
-/

set_option autoImplicit false

namespace Immutability

/-- What a walk does next: ask for a child, or end. -/
inductive Step (ω α : Type) where
  | await (child : TypeRef) (walk : ω)
  | done (value : α)
deriving Repr

namespace Step

def map {ω ω' α α' : Type} (f : ω → ω') (g : α → α') : Step ω α → Step ω' α'
  | await child walk => await child (f walk)
  | done value => done (g value)

end Step

/-! ### The least of several types -/

/-- Search for the least verdict of some types. -/
structure Least where
  rest : List TypeRef
  found : Verdict := .unknown
deriving DecidableEq, Repr

namespace Least

def next (walk : Least) : Step Least Verdict :=
  match walk.rest with
  | child :: rest => .await child { walk with rest }
  | [] => .done walk.found

def resume (walk : Least) : Option Verdict → Step Least Verdict
  | none => walk.next
  | some verdict =>
    let found := walk.found.meet verdict
    if found = .known .mutable then .done found else next { walk with found }

end Least

/-! ### Objects -/

/-- How far a walk over an object has come. -/
inductive ObjectStage where
  /-- Before the properties, none of which was looked at. -/
  | scan (properties : List Property)
  /-- Among the types of the properties. -/
  | properties (rest : List TypeId)
  /-- Among the type arguments. -/
  | arguments (rest : List TypeId) (found : Verdict)
  /-- Among the index signatures of one kind. -/
  | indexes (kind : IndexKind) (rest : List TypeId) (found : Verdict)
deriving DecidableEq, Repr

structure ObjectWalk where
  id : TypeId
  isTuple : Bool
  /-- The types whose index signatures count: the object itself, or the members of an intersection. -/
  sources : List TypeId
  lower : Level := .mutable
  upper : Level
  stage : ObjectStage
deriving DecidableEq, Repr

/-- What the index signatures of one kind come to. -/
inductive Gathered where
  /-- The type of the values of one of them is needed. -/
  | waits (value : TypeId) (rest : List TypeId) (found : Verdict)
  | all (found : Verdict)
deriving DecidableEq, Repr

namespace ObjectWalk

variable {σ : Type}

/-- Upper bound left by the properties, or nothing if one of them can be written. Private properties and
the length of a tuple do not count; a method leaves a deeply read-only object at best. -/
def scanBound (isTuple : Bool) : List Property → Level → Option Level
  | [], upper => some upper
  | property :: rest, upper =>
    if property.flags.readonly || property.flags.privateName || (isTuple && property.name == "length")
    then scanBound isTuple rest upper
    else if property.flags.method then scanBound isTuple rest (min upper .readonlyDeep)
    else none

/-- Goes through index signatures until the type of the values of one of them is needed. A signature that
can be written counts as the lowest level, and one whose values are of the type itself as the bound. -/
def gather (host : Host σ) (state : σ) (kind : IndexKind) (upper : Level) :
    List TypeId → Verdict → Gathered
  | [], found => .all found
  | source :: rest, found =>
    match host.indexSignature state source kind with
    | none => gather host state kind upper rest found
    | some signature =>
      if !signature.readonly then gather host state kind upper rest (found.join (.known .mutable))
      else if signature.value = source then gather host state kind upper rest (found.join (.known upper))
      else .waits signature.value rest found

/-- Ends the walk if the bounds have met, and goes on otherwise. -/
def unlessMet (walk : ObjectWalk) (next : ObjectWalk → Step ObjectWalk Level) :
    Step ObjectWalk Level :=
  if walk.upper ≤ walk.lower then .done walk.lower else next walk

/-- Goes through the index signatures of one kind, and on to what follows them. -/
def indexStage (host : Host σ) (state : σ) (kind : IndexKind)
    (next : ObjectWalk → Step ObjectWalk Level) (walk : ObjectWalk) (rest : List TypeId)
    (found : Verdict) : Step ObjectWalk Level :=
  match gather host state kind walk.upper rest found with
  | .waits value rest found => .await value { walk with stage := .indexes kind rest found }
  | .all found => unlessMet { walk with upper := walk.upper.cap found } next

/-- The last stage: number index signatures. -/
def numberStage (host : Host σ) (state : σ) :
    ObjectWalk → List TypeId → Verdict → Step ObjectWalk Level :=
  indexStage host state .number fun walk => .done (max walk.lower walk.upper)

def stringStage (host : Host σ) (state : σ) :
    ObjectWalk → List TypeId → Verdict → Step ObjectWalk Level :=
  indexStage host state .string fun walk => numberStage host state walk walk.sources .unknown

def argumentStage (host : Host σ) (state : σ) (walk : ObjectWalk) (rest : List TypeId)
    (found : Verdict) : Step ObjectWalk Level :=
  match rest with
  | child :: rest => .await child { walk with stage := .arguments rest found }
  | [] =>
    unlessMet { walk with upper := walk.upper.cap found } fun walk =>
      stringStage host state walk walk.sources .unknown

def afterProperties (host : Host σ) (state : σ) (walk : ObjectWalk) : Step ObjectWalk Level :=
  if host.isReference state walk.id then
    argumentStage host state walk (host.typeArguments state walk.id) .unknown
  else stringStage host state walk walk.sources .unknown

def propertyStage (host : Host σ) (state : σ) (walk : ObjectWalk) (rest : List TypeId) :
    Step ObjectWalk Level :=
  match rest with
  | child :: rest => .await child { walk with stage := .properties rest }
  | [] => afterProperties host state walk

/-- What the values of an index signature come to: they are read-only on the surface at least. -/
def indexed (found : Verdict) : Option Verdict → Verdict
  | some (.known level) => found.join (.known (max .readonlyShallow level))
  | _ => found

def resume (host : Host σ) (state : σ) (walk : ObjectWalk) (answer : Option Verdict) :
    Step ObjectWalk Level :=
  match walk.stage with
  | .scan [] => afterProperties host state walk
  | .scan properties =>
    match scanBound walk.isTuple properties walk.upper with
    | none => .done .mutable
    | some upper =>
      propertyStage host state { walk with lower := .readonlyShallow, upper }
        (properties.map (·.type))
  | .properties rest =>
    match answer with
    | none => propertyStage host state walk rest
    | some verdict =>
      unlessMet { walk with upper := walk.upper.cap verdict } (propertyStage host state · rest)
  | .arguments rest found => argumentStage host state walk rest (found.meet (answer.getD .unknown))
  | .indexes .string rest found => stringStage host state walk rest (indexed found answer)
  | .indexes .number rest found => numberStage host state walk rest (indexed found answer)

variable (host : Host σ) (state : σ) {walk : ObjectWalk}

theorem argumentStage_nil (walk : ObjectWalk) (found : Verdict) :
    argumentStage host state walk [] found =
      unlessMet { walk with upper := walk.upper.cap found } fun walk =>
        stringStage host state walk walk.sources .unknown := rfl

theorem resume_scan_nil (h : walk.stage = .scan []) (answer : Option Verdict) :
    walk.resume host state answer = afterProperties host state walk := by
  unfold resume
  rw [h]

theorem resume_scan {properties : List Property} (h : walk.stage = .scan properties)
    (hne : properties ≠ []) (answer : Option Verdict) :
    walk.resume host state answer =
      match scanBound walk.isTuple properties walk.upper with
      | none => .done .mutable
      | some upper =>
        propertyStage host state { walk with lower := .readonlyShallow, upper }
          (properties.map (·.type)) := by
  unfold resume
  rw [h]
  cases properties with
  | nil => exact absurd rfl hne
  | cons property properties => rfl

theorem resume_properties_none {rest : List TypeId} (h : walk.stage = .properties rest) :
    walk.resume host state none = propertyStage host state walk rest := by
  unfold resume
  rw [h]

theorem resume_properties_some {rest : List TypeId} (h : walk.stage = .properties rest)
    (verdict : Verdict) :
    walk.resume host state (some verdict) =
      unlessMet { walk with upper := walk.upper.cap verdict } (propertyStage host state · rest) := by
  unfold resume
  rw [h]

theorem resume_arguments {rest : List TypeId} {found : Verdict}
    (h : walk.stage = .arguments rest found) (answer : Option Verdict) :
    walk.resume host state answer =
      argumentStage host state walk rest (found.meet (answer.getD .unknown)) := by
  unfold resume
  rw [h]

theorem resume_strings {rest : List TypeId} {found : Verdict}
    (h : walk.stage = .indexes .string rest found) (answer : Option Verdict) :
    walk.resume host state answer = stringStage host state walk rest (indexed found answer) := by
  unfold resume
  rw [h]

theorem resume_numbers {rest : List TypeId} {found : Verdict}
    (h : walk.stage = .indexes .number rest found) (answer : Option Verdict) :
    walk.resume host state answer = numberStage host state walk rest (indexed found answer) := by
  unfold resume
  rw [h]

end ObjectWalk

/-! ### Arrays -/

inductive ArrayWalk where
  /-- Over the array as an object. -/
  | container (walk : ObjectWalk) (threshold : Level)
  /-- Over the element types. -/
  | elements (shallow : Level) (rest : List TypeId) (found : Verdict)
deriving DecidableEq, Repr

namespace ArrayWalk

variable {σ : Type}

def elementStage (shallow : Level) (rest : List TypeId) (found : Verdict) : Step ArrayWalk Level :=
  match rest with
  | child :: rest => .await child (.elements shallow rest found)
  | [] => .done (max shallow (Level.cap .readonlyShallow found))

def resume (host : Host σ) (state : σ) (walk : ArrayWalk) (answer : Option Verdict) :
    Step ArrayWalk Level :=
  match walk with
  | container object threshold =>
    match object.resume host state answer with
    | .await child object => .await child (container object threshold)
    | .done shallow =>
      if shallow = .mutable || decide (threshold ≤ shallow) then .done shallow
      else elementStage shallow (host.typeArguments state object.id) .unknown
  | elements shallow rest found => elementStage shallow rest (found.meet (answer.getD .unknown))

end ArrayWalk

/-! ### Tasks -/

inductive Task where
  | least (walk : Least)
  | object (walk : ObjectWalk)
  | array (walk : ArrayWalk)
deriving DecidableEq, Repr

def Task.resume {σ : Type} (host : Host σ) (state : σ) (task : Task) (answer : Option Verdict) :
    Step Task Verdict :=
  match task with
  | least walk => (walk.resume answer).map least id
  | object walk => (walk.resume host state answer).map object .known
  | array walk => (walk.resume host state answer).map array .known

end Immutability
