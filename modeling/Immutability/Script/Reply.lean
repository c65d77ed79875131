import Immutability.Config.Compile
import Immutability.Query
import Immutability.Store.Data

/-!
# Replies

What the instructions of a script answer.
-/

set_option autoImplicit false

namespace Immutability.Script

/-- Everything that a host says about the structure of a type. -/
structure Inspection where
  shape : Shape
  properties : List Property
  callable : Bool
  isReference : Bool
  typeArguments : List TypeId
  stringIndex : Option IndexSignature
  numberIndex : Option IndexSignature
  identity : Identity
  files : List SourceFile
deriving Repr

/-- The directories of a store's program and the handles that every store has. -/
structure ProgramReply where
  program : Program
  libraryFile : FileId
  methodType : TypeId
deriving Repr

/-- A type classified at every threshold and asked every question. -/
structure Survey where
  levels : List (Level × Status)
  answers : List Bool
deriving Repr

/-- The entries of a cache: of the places where types were written, and of the types of a store. -/
structure Dump where
  size : Nat
  nodes : List (NodeId × Entry)
  identities : List (Identity × Entry)
deriving Repr

inductive Reply where
  | nothing
  | number (value : Nat)
  | written (type : TypeId) (node : NodeId)
  | status (status : Option Status)
  | truth (value : Bool)
  | truths (values : List Bool)
  | place (index : Option Nat)
  | stored (data : Option StoredType)
  | symbol (info : Option SymbolInfo)
  | aliasInfo (info : Option Alias)
  | words (text : Option String)
  | program (reply : ProgramReply)
  | inspection (inspection : Inspection)
  | typeName (typeName : TypeName)
  | text (text : String)
  /-- Texts, each with how often it came in a row. -/
  | runs (texts : List (String × Nat))
  | rules (rules : List Rule)
  | refused (error : ConfigError)
  | survey (survey : Survey)
  | entry (key : CacheKey) (entry : Option Entry)
  | dump (dump : Dump)
  /-- A reply with what happened on the way to it. -/
  | traced (reply : Reply) (events : List Event)
  | fault (fault : Fault)

end Immutability.Script
