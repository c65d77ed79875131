import Immutability.Host
import Immutability.Rendering.Names
import Immutability.Store.Properties

/-!
# Stores as hosts

A store answers the questions of a host from the types it keeps. Which handles stand for one type is
left open; by default every handle stands for a type of its own.
-/

set_option autoImplicit false

namespace Immutability.Store

def shape (store : Store) (id : TypeId) : Shape :=
  match store.get? id with
  | none | some .pending | some .error => .error
  | some (.intrinsic _) | some (.literal _) | some (.typeParameter _) => .primitive
  | some (.union members) => .union members
  | some (.intersection members) => .intersection members
  | some (.conditional type) => .conditional type.whenTrue type.whenFalse
  | some (.object object) => .object object.kind

def isReference (store : Store) (id : TypeId) : Bool := (store.object? id).any (·.isReference)

def indexSignature (store : Store) (id : TypeId) (kind : IndexKind) : Option IndexSignature :=
  (store.object? id).bind (·.index kind)

/-- The handles given out from one store to a later one. -/
def registeredSince (earlier later : Store) : List TypeId :=
  (List.range' earlier.nextType.index (later.nextType.index - earlier.nextType.index)).map (⟨·⟩)

/-- Properties of a stored type, with the types that were stored in order to list them. -/
def listing (store : Store) (id : TypeId) : Listing Store :=
  let (properties, later) := store.properties id
  ⟨properties, store.registeredSince later, later⟩

def ownIdentity (id : TypeId) : Identity := ⟨id.index⟩

/-- Stores as states of a host that recognises types by the given identities. -/
def hostWith (identity : TypeId → Identity) : Host Store where
  shape := shape
  properties := listing
  callable := callable
  isReference := isReference
  typeArguments := typeArguments
  indexSignature := indexSignature
  identity _ := identity
  typeName := typeName
  declarationFiles := declarationFiles
  program := program

theorem identity_hostWith (identity : TypeId → Identity) (store later : Store) :
    (hostWith identity).identity later = (hostWith identity).identity store := rfl

def host : Host Store := hostWith ownIdentity

end Immutability.Store
