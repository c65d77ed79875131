import Immutability.Rendering.Guard
import Immutability.Rendering.Layout

/-!
# Writing types as text

A type is written by its layout, the types inside it from left to right, while a warden watches over the
descent. A type that the warden refuses is written as three dots. The warden is a guard as a rule, and the
guard's budget of steps is shared by everything that is written with one guard.

Every type that is written lies below one that was entered, and a guard lets in only so many types on top
of each other. So the descent needs no more room than one level beyond that depth.
-/

set_option autoImplicit false

namespace Immutability

/-- What watches over a descent into types. It is asked before a type is entered, and it is told when a
type that it let in is left. -/
class Warden (γ : Type) where
  enter : γ → TypeId → Bool × γ
  leave : γ → TypeId → γ

instance : Warden Guard := ⟨Guard.enter, Guard.leave⟩

/-- Writes one type, in some state of the descent. -/
abbrev Writer (γ : Type) := TypeId → γ → String × γ

/-- What is written for a type that was refused. -/
def elided : String := "..."

/-- Room that the descent into a type needs. -/
def renderingRoom : Nat := Limits.typeNameDepth + 1

section

variable {γ : Type}

def Piece.writeAll (write : Writer γ) : String → List Piece → γ → String × γ
  | before, [], state => (before, state)
  | before, .text fixed :: rest, state => writeAll write (before ++ fixed) rest state
  | before, .type id :: rest, state =>
    let (inner, state) := write id state
    writeAll write (before ++ inner) rest state

/-- Writes the names of types with commas between them; the owner of the names stands for itself. -/
def writeArguments (write : Writer γ) (owner : TypeId) (name : String) :
    List TypeId → γ → List String × γ
  | [], state => ([], state)
  | id :: rest, state =>
    let (text, state) := if id = owner then (name, state) else write id state
    let (texts, state) := writeArguments write owner name rest state
    (text :: texts, state)

def writeApplied? (write : Writer γ) (owner : TypeId) (name : Option String)
    (arguments : List TypeId) (state : γ) : Option String × γ :=
  match name, arguments with
  | some _, [] | none, _ => (none, state)
  | some name, arguments =>
    let (texts, state) := writeArguments write owner name arguments state
    (some (name ++ "<" ++ ", ".intercalate texts ++ ">"), state)

/-- Writes a type by what is inside it, if the type may be entered. -/
def watched [Warden γ] (id : TypeId) (inside : γ → String × γ) (state : γ) : String × γ :=
  match Warden.enter state id with
  | (false, state) => (elided, state)
  | (true, state) =>
    let (text, state) := inside state
    (text, Warden.leave state id)

end

namespace Store

variable {γ : Type}

def declaredName? (store : Store) (id : TypeId) : Option String :=
  match store.get? id with
  | some (.intrinsic kind) => some kind.name
  | some (.typeParameter symbol) => store.symbolName? symbol
  | some (.object object) => object.symbol.bind store.symbolName?
  | _ => none

/-- Type arguments of an object type; none for everything else. -/
def typeArguments (store : Store) (id : TypeId) : List TypeId :=
  match store.object? id with
  | some object => object.typeArguments
  | none => []

/-- All names of a type except the rendering of the type itself, which is left empty. The type arguments
are written by `write`. -/
def declaredNames (store : Store) (write : Writer γ) (id : TypeId) (state : γ) : TypeName × γ :=
  let name := store.declaredName? id
  let (nameWithArguments, state) :=
    writeApplied? write id name (store.typeArguments id) state
  let aliasName := (store.namedAlias? id).map (·.1)
  let arguments := ((store.aliasOf? id).map (·.arguments)).getD []
  let (aliasWithArguments, state) := writeApplied? write id aliasName arguments state
  ({ name, nameWithArguments, aliasName, aliasWithArguments, evaluated := "" }, state)

/-- Writes a type whose inner types are written by `write`. -/
def formatOver [Warden γ] (store : Store) (write : Writer γ) : Writer γ := fun id state =>
  watched id (fun state => Piece.writeAll write "" (store.layout id) state) state

/-- Writes a type as an argument of another: by its name if it has one. The type arguments of the name are
written by `writeArgument`, and the inner types by `write`. -/
def argumentOver [Warden γ] (store : Store) (write writeArgument : Writer γ) : Writer γ :=
  fun id state =>
    watched id (fun state =>
      let (typeName, state) := store.declaredNames writeArgument id state
      let (evaluated, state) := Piece.writeAll write "" (store.layout id) state
      ({ typeName with evaluated }.asArgument, state)) state

/-- All textual forms of a type, with the type written by `write` and type arguments by `writeArgument`. -/
def describeOver (store : Store) (write writeArgument : Writer γ) (ref : TypeRef) (state : γ) :
    TypeName × γ :=
  let (typeName, state) := store.declaredNames writeArgument ref.id state
  let (evaluated, state) := write ref.id state
  ({ typeName with evaluated, written := ref.node.bind store.written? }, state)

variable [Warden γ]

def format (store : Store) : Nat → Writer γ
  | 0 => fun _ state => (elided, state)
  | room + 1 => store.formatOver (store.format room)

def formatArgument (store : Store) : Nat → Writer γ
  | 0 => fun _ state => (elided, state)
  | room + 1 => store.argumentOver (store.format room) (store.formatArgument room)

def render (store : Store) : Writer γ := store.format renderingRoom

def describe (store : Store) : TypeRef → γ → TypeName × γ :=
  store.describeOver store.render (store.formatArgument renderingRoom)

/-- All textual forms of a type, written under a new guard. -/
def typeName (store : Store) (ref : TypeRef) : TypeName := (store.describe ref ({} : Guard)).1

end Store

end Immutability
