import Immutability.Shape

/-!
# Stored types

The data that a store keeps for a type, for a symbol, for an alias and for a place in source where a
type was written out.
-/

set_option autoImplicit false

namespace Immutability

/-- Built-in types without a declaration. -/
inductive Intrinsic where
  | any
  | unknown
  | never
  | void
  | undefined
  | null
  | boolean
  | number
  | bigint
  | string
  | symbol
  | object
deriving DecidableEq, Repr

namespace Intrinsic

/-- All intrinsic types, in the order of their handles. -/
def all : List Intrinsic :=
  [any, unknown, never, void, undefined, null, boolean, number, bigint, string, symbol, object]

def name : Intrinsic → String
  | any => "any"
  | unknown => "unknown"
  | never => "never"
  | void => "void"
  | undefined => "undefined"
  | null => "null"
  | boolean => "boolean"
  | number => "number"
  | bigint => "bigint"
  | string => "string"
  | symbol => "symbol"
  | object => "object"

/-- Handle of an intrinsic type: the first handles of every store, after that of the error type. -/
def id : Intrinsic → TypeId
  | any => ⟨1⟩
  | unknown => ⟨2⟩
  | never => ⟨3⟩
  | void => ⟨4⟩
  | undefined => ⟨5⟩
  | null => ⟨6⟩
  | boolean => ⟨7⟩
  | number => ⟨8⟩
  | bigint => ⟨9⟩
  | string => ⟨10⟩
  | symbol => ⟨11⟩
  | object => ⟨12⟩

def ofName? (text : String) : Option Intrinsic := all.find? (·.name == text)

end Intrinsic

def errorType : TypeId := ⟨0⟩

/-- A choice between two types by a condition on a third. -/
structure ConditionalType where
  check : TypeId
  extended : TypeId
  whenTrue : TypeRef
  whenFalse : TypeRef
deriving DecidableEq, Repr

structure ObjectType where
  kind : ObjectKind := .plain
  /-- The declaring symbol; object literals and other anonymous types have none. -/
  symbol : Option SymbolId := none
  properties : List Property := []
  callable : Bool := false
  /-- Set for references to generic declarations, arrays and tuples. -/
  isReference : Bool := false
  typeArguments : List TypeId := []
  stringIndex : Option IndexSignature := none
  numberIndex : Option IndexSignature := none
deriving DecidableEq, Repr, Inhabited

def ObjectType.index (object : ObjectType) : IndexKind → Option IndexSignature
  | .string => object.stringIndex
  | .number => object.numberIndex

inductive StoredType where
  /-- Reserved and not yet defined. -/
  | pending
  | error
  | intrinsic (kind : Intrinsic)
  /-- A literal type, by its source text. -/
  | literal (text : String)
  | typeParameter (symbol : SymbolId)
  | union (members : List TypeId)
  | intersection (members : List TypeId)
  | conditional (type : ConditionalType)
  | object (type : ObjectType)
deriving DecidableEq, Repr, Inhabited

/-- A declared name and the files that declare it. -/
structure SymbolInfo where
  name : String
  declarations : List FileId
deriving DecidableEq, Repr

/-- A name given to a type, with the arguments it was given for. -/
structure Alias where
  symbol : SymbolId
  arguments : List TypeId
deriving DecidableEq, Repr

/-- A place where a type was written out. -/
structure TypeNode where
  type : TypeId
  written : String
deriving DecidableEq, Repr

/-- What identifies a type that is stored only once. -/
inductive Composite where
  | union (members : List TypeId)
  | intersection (members : List TypeId)
  | tuple (readonly : Bool) (elements : List TypeId)
  | reference (symbol : SymbolId) (arguments : List TypeId)
deriving DecidableEq, Repr

/-- The composite as a list of numbers, by which it is found. -/
def Composite.code : Composite → List Nat
  | union members => 0 :: members.map (·.index)
  | intersection members => 1 :: members.map (·.index)
  | tuple false elements => 2 :: elements.map (·.index)
  | tuple true elements => 3 :: elements.map (·.index)
  | reference symbol arguments => 4 :: symbol.index :: arguments.map (·.index)

/-- A composite is known by its code. -/
theorem Composite.code_injective {a b : Composite} (h : a.code = b.code) : a = b := by
  have indices {kind : HandleKind} {xs ys : List (Handle kind)}
      (same : xs.map (·.index) = ys.map (·.index)) : xs = ys :=
    (List.map_inj_right fun _ _ => Handle.index_injective).mp same
  rcases a with xs | xs | ⟨_ | _, xs⟩ | ⟨s, xs⟩ <;>
    rcases b with ys | ys | ⟨_ | _, ys⟩ | ⟨t, ys⟩ <;> simp only [code, List.cons.injEq] at h <;>
    grind [Handle.index_injective]

end Immutability
