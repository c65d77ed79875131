import Immutability.Handle

/-!
# Shapes of types

What a classification learns about a type from its host: the structural category of the type, its
properties and its index signatures.
-/

set_option autoImplicit false

namespace Immutability

/-- Facts about a property that decide whether it can be written. -/
structure PropertyFlags where
  /-- Declared read-only. -/
  readonly : Bool := false
  /-- The property's only form is a callable signature. -/
  method : Bool := false
  /-- A private name. -/
  privateName : Bool := false
  /-- The property may be missing. -/
  optional : Bool := false
deriving DecidableEq, Repr, Inhabited

structure Property where
  name : String
  type : TypeId
  flags : PropertyFlags := {}
deriving DecidableEq, Repr, Inhabited

namespace Property

/-- A property that cannot be assigned. -/
def readonly (name : String) (type : TypeId) : Property :=
  { name, type, flags := { readonly := true } }

/-- A property whose only form is a callable signature. -/
def method (name : String) (type : TypeId) : Property :=
  { name, type, flags := { method := true } }

end Property

/-- The keys an index signature is declared over. -/
inductive IndexKind where
  | string
  | number
deriving DecidableEq, Repr

/-- A declaration that every key of one kind has a value of one type. -/
structure IndexSignature where
  value : TypeId
  readonly : Bool
deriving DecidableEq, Repr

inductive ObjectKind where
  /-- Records, interfaces, class instances, functions. -/
  | plain
  /-- Arrays, writable or not. -/
  | array
  /-- Tuples, with their own modifier. -/
  | tuple (readonly : Bool)
deriving DecidableEq, Repr, Inhabited

/-- Structural category of a type. -/
inductive Shape where
  /-- The host could not produce a type. -/
  | error
  | union (members : List TypeId)
  | intersection (members : List TypeId)
  /-- A choice between two types whose condition is never evaluated. -/
  | conditional (whenTrue whenFalse : TypeRef)
  | object (kind : ObjectKind)
  /-- Everything else: primitives, literals, type parameters. -/
  | primitive
deriving DecidableEq, Repr, Inhabited

end Immutability
