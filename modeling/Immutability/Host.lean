import Immutability.Program
import Immutability.Shape

/-!
# Hosts

A host answers questions about types. It may keep a state, and listing the properties of a type may
change it: merging the properties of an intersection can register new types. All other questions
leave the state alone. A `TypeGraph` is a host without state, whose answers are plain functions.
-/

set_option autoImplicit false

namespace Immutability

/-- The properties of a type, with the types that were registered in order to list them. -/
structure Listing (σ : Type) where
  properties : List Property
  registered : List TypeId
  state : σ

/-- Structural questions about types, answered from a state. -/
structure Host (σ : Type) where
  /-- Structural category of a type. -/
  shape : σ → TypeId → Shape
  /-- Properties of an object type; of an intersection, those of its members merged. -/
  properties : σ → TypeId → Listing σ
  /-- Whether the type has a call signature. -/
  callable : σ → TypeId → Bool
  /-- Whether the type is a reference to a generic declaration. -/
  isReference : σ → TypeId → Bool
  /-- Type arguments of a reference; none for everything else. -/
  typeArguments : σ → TypeId → List TypeId
  /-- The index signature declared over keys of one kind. -/
  indexSignature : σ → TypeId → IndexKind → Option IndexSignature
  /-- The key by which the host recognises the type in all its spellings. -/
  identity : σ → TypeId → Identity
  /-- Textual forms of the type. -/
  typeName : σ → TypeRef → TypeName
  /-- Source files that declare the symbol behind the type. -/
  declarationFiles : σ → TypeId → List SourceFile
  /-- The directories of the program. -/
  program : σ → Program

/-- A host whose answers depend on nothing but the question. -/
structure TypeGraph where
  shape : TypeId → Shape
  properties : TypeId → List Property
  callable : TypeId → Bool
  isReference : TypeId → Bool
  typeArguments : TypeId → List TypeId
  indexSignature : TypeId → IndexKind → Option IndexSignature
  identity : TypeId → Identity
  typeName : TypeRef → TypeName
  declarationFiles : TypeId → List SourceFile
  program : Program

/-- A type graph as a host without state. -/
def TypeGraph.host (graph : TypeGraph) : Host Unit where
  shape _ := graph.shape
  properties _ id := ⟨graph.properties id, [], ()⟩
  callable _ := graph.callable
  isReference _ := graph.isReference
  typeArguments _ := graph.typeArguments
  indexSignature _ := graph.indexSignature
  identity _ := graph.identity
  typeName _ := graph.typeName
  declarationFiles _ := graph.declarationFiles
  program _ := graph.program

end Immutability
