import Immutability.Config.Value
import Immutability.Query
import Immutability.Store.Data

/-!
# Scripts

A script is a list of instructions that build a store step by step, under names of the script's own, and
ask questions about it. This module holds the instructions; types, symbols and files stand in them by
name or by the index of their handle.
-/

set_option autoImplicit false

namespace Immutability.Script

inductive TypeExpr where
  /-- A name of the script, or else of an intrinsic type. -/
  | name (name : String)
  | index (index : Nat)
  /-- A type written at the place of the given index. -/
  | written (type : TypeExpr) (node : Nat)
deriving Repr, Inhabited

inductive SymbolExpr where
  | name (name : String)
  | index (index : Nat)
deriving Repr, Inhabited

inductive FileExpr where
  | name (name : String)
  | index (index : Nat)
deriving Repr, Inhabited

structure PropertyExpr where
  name : String
  type : TypeExpr
  flags : PropertyFlags
deriving Repr, Inhabited

structure IndexExpr where
  value : TypeExpr
  readonly : Bool
deriving Repr, Inhabited

structure ObjectExpr where
  kind : ObjectKind := .plain
  symbol : Option SymbolExpr := none
  properties : List PropertyExpr := []
  callable : Bool := false
  /-- By default, whether there are type arguments. -/
  isReference : Option Bool := none
  typeArguments : Option (List TypeExpr) := none
  stringIndex : Option IndexExpr := none
  numberIndex : Option IndexExpr := none
deriving Repr, Inhabited

structure ConditionalExpr where
  check : TypeExpr
  extended : TypeExpr
  whenTrue : TypeExpr
  whenFalse : TypeExpr
deriving Repr, Inhabited

inductive DataExpr where
  | pending
  | error
  | intrinsic (kind : Intrinsic)
  | literal (text : String)
  | typeParameter (symbol : SymbolExpr)
  | union (members : List TypeExpr)
  | intersection (members : List TypeExpr)
  | conditional (type : ConditionalExpr)
  | object (type : ObjectExpr)
deriving Repr, Inhabited

/-- Builders that are applied to their own result again and again. -/
inductive ChainKind where
  /-- An object with one read-only property. -/
  | object
  /-- The same with a method beside the property. -/
  | methodObject
  | array
  | readonlyArray
  | tuple (readonly : Bool)
  /-- A union with a new empty object. -/
  | union
  /-- An intersection with a new empty object. -/
  | intersection
  /-- A choice with the type as its first branch. -/
  | conditional
  /-- An object with a read-only string index signature. -/
  | index
  /-- A reference to a symbol. -/
  | reference (symbol : SymbolExpr)
deriving Repr, Inhabited

/-- Types over many members. -/
inductive WideKind where
  | union
  | intersection
  | tuple (readonly : Bool)
  /-- An object with one read-only property for each member. -/
  | object
deriving Repr, Inhabited

inductive Builder where
  | reserve
  | intern (data : DataExpr)
  | literal (text : String)
  | typeParameter (name : String) (files : List FileExpr)
  | union (members : List TypeExpr)
  | intersection (members : List TypeExpr)
  | conditional (type : ConditionalExpr)
  | record (properties : List PropertyExpr)
  | object (type : ObjectExpr)
  | interface (name : String) (files : List FileExpr) (properties : List PropertyExpr)
  | function
  | array (element : TypeExpr)
  | readonlyArray (element : TypeExpr)
  | tuple (readonly : Bool) (elements : List TypeExpr)
  /-- The object may mention the name that the reference is bound to. -/
  | reference (symbol : SymbolExpr) (arguments : List TypeExpr) (type : ObjectExpr)
  | chain (kind : ChainKind) (base : TypeExpr) (count : Nat)
  /-- The members are copies of one type, or else new literals with numbered texts. -/
  | wide (kind : WideKind) (count : Nat) (stem : String) (type : Option TypeExpr)
deriving Repr, Inhabited

/-- A rule that is built without being checked. -/
structure RawRule where
  names : List String
  patterns : List String
  ignoreNames : List String
  ignorePatterns : List String
  provenance : Option Provenance
  target : Status
  origin : Option Status
deriving Repr, Inhabited

inductive RulesExpr where
  | none
  | defaults
  | name (name : String)
deriving Repr, Inhabited

/-- Which rules and which cache a query uses. -/
inductive Setting where
  /-- A new cache for this query. -/
  | fresh (rules : RulesExpr)
  /-- The cache of a name. -/
  | shared (rules : RulesExpr) (cache : String)
  /-- The rules and the cache of a checker. -/
  | checker (name : String)
deriving Repr, Inhabited

inductive CacheExpr where
  | name (name : String)
  | checker (name : String)
deriving Repr, Inhabited

/-- One step of a script. -/
inductive Instruction where
  | make (label : Option String) (builder : Builder)
  | write (label : Option String) (type : TypeExpr) (text : String)
  | define (type : TypeExpr) (data : DataExpr)
  | file (label : Option String) (file : SourceFile)
  | declare (label : Option String) (name : String) (files : List FileExpr)
  | librarySymbol (label : Option String) (name : String)
  | setAlias (type : TypeExpr) (symbol : SymbolExpr) (arguments : List TypeExpr)
  | identity (type : TypeExpr) (index : Nat)
  | lookup (type : TypeExpr)
  | symbolInfo (symbol : SymbolExpr)
  | aliasInfo (type : TypeExpr)
  | written (node : Nat)
  | program
  | inspect (type : TypeExpr)
  | typeName (type : TypeExpr)
  | asArgument (type : TypeExpr)
  /-- Types, each with how often it is written, all under one guard. -/
  | format (items : List (TypeExpr × Nat))
  | configure (label : String) (config : Value)
  | rules (label : String) (rules : List RawRule)
  | findRule (type : TypeExpr) (rules : RulesExpr) (bare : Bool)
  | matchRules (type : TypeExpr) (rules : RulesExpr) (bare : Bool)
  | checker (label : String) (rules : RulesExpr)
  | classify (type : TypeExpr) (max : Status) (setting : Setting) (scope : TraceScope)
  | ask (type : TypeExpr) (question : Question) (setting : Setting) (scope : TraceScope)
  | survey (type : TypeExpr) (rules : RulesExpr)
  | cacheSet (cache : String) (type : TypeExpr) (entry : Entry)
  | cacheGet (cache : CacheExpr) (type : TypeExpr) (max : Status)
  | cacheEntry (cache : String) (type : TypeExpr)
  | cacheClear (cache : CacheExpr)
  | cacheDump (cache : CacheExpr)
deriving Inhabited

end Immutability.Script
