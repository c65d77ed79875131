import Immutability.Program
import Immutability.Store.Data
import Std.Data.TreeMap

/-!
# Stores

A store keeps the types of a program, with their symbols, files, aliases and written forms. Handles are
given out one after another and never reused. A new store holds the error type, the intrinsic types, the
file of the standard library and the function type that library methods share.

A recursive type is built by reserving its handle first and defining it afterwards.
-/

set_option autoImplicit false

namespace Immutability

structure Store where
  types : Std.TreeMap TypeId StoredType := ∅
  /-- The handle that the next registered type gets. -/
  nextType : TypeId
  /-- Symbols in the order of their handles, which start at one. -/
  symbols : Array SymbolInfo := #[]
  /-- Files in the order of their handles, which start at one. -/
  files : Array SourceFile := #[]
  /-- Written types in the order of their handles, which start at one. -/
  nodes : Array TypeNode := #[]
  aliases : Std.TreeMap TypeId Alias := ∅
  /-- Symbols of the standard library that were asked for, by name. -/
  librarySymbols : Std.TreeMap String SymbolId := ∅
  /-- Types that are stored only once, by the code of the composite. -/
  interned : Std.TreeMap (List Nat) TypeId := ∅
  libraryFile : FileId
  methodType : TypeId
  program : Program

namespace Store

/-! ### Types -/

def register (store : Store) (data : StoredType) : TypeId × Store :=
  let id := store.nextType
  (id, { store with types := store.types.insert id data, nextType := id.next })

/-- Takes the next handle for a type that is defined later. -/
def reserve (store : Store) : TypeId × Store := store.register .pending

/-- Gives a handle its type, in place of any other. -/
def define (store : Store) (id : TypeId) (data : StoredType) : Store :=
  { store with types := store.types.insert id data }

def get? (store : Store) (id : TypeId) : Option StoredType := store.types[id]?

@[simp] theorem get?_define (store : Store) (id other : TypeId) (data : StoredType) :
    (store.define id data).get? other = if id = other then some data else store.get? other := by
  simp [define, get?, Std.TreeMap.getElem?_insert]

@[simp] theorem get?_register (store : Store) (data : StoredType) (other : TypeId) :
    (store.register data).2.get? other =
      if store.nextType = other then some data else store.get? other := by
  simp [register, get?, Std.TreeMap.getElem?_insert]

def object? (store : Store) (id : TypeId) : Option ObjectType :=
  match store.get? id with
  | some (.object object) => some object
  | _ => none

/-! ### Files, symbols, aliases, written types -/

def addFile (store : Store) (file : SourceFile) : FileId × Store :=
  (⟨store.files.size + 1⟩, { store with files := store.files.push file })

def file? (store : Store) (id : FileId) : Option SourceFile :=
  if id.index = 0 then none else store.files[id.index - 1]?

def declare (store : Store) (name : String) (declarations : List FileId) : SymbolId × Store :=
  (⟨store.symbols.size + 1⟩, { store with symbols := store.symbols.push { name, declarations } })

def symbol? (store : Store) (id : SymbolId) : Option SymbolInfo :=
  if id.index = 0 then none else store.symbols[id.index - 1]?

def symbolName? (store : Store) (id : SymbolId) : Option String := (store.symbol? id).map (·.name)

/-- The symbol of the standard library with this name, declared when it is first asked for. -/
def librarySymbol (store : Store) (name : String) : SymbolId × Store :=
  match store.librarySymbols[name]? with
  | some id => (id, store)
  | none =>
    let (id, store) := store.declare name [store.libraryFile]
    (id, { store with librarySymbols := store.librarySymbols.insert name id })

def setAlias (store : Store) (id : TypeId) (symbol : SymbolId) (arguments : List TypeId) : Store :=
  { store with aliases := store.aliases.insert id { symbol, arguments } }

def aliasOf? (store : Store) (id : TypeId) : Option Alias := store.aliases[id]?

/-- Records that a type was written out. -/
def addNode (store : Store) (type : TypeId) (written : String) : TypeRef × Store :=
  ({ id := type, node := some ⟨store.nodes.size + 1⟩ },
    { store with nodes := store.nodes.push { type, written } })

def written? (store : Store) (id : NodeId) : Option String :=
  if id.index = 0 then none else store.nodes[id.index - 1]?.map (·.written)

def declaringSymbol? (store : Store) (id : TypeId) : Option SymbolId :=
  match store.get? id with
  | some (.object object) => object.symbol
  | some (.typeParameter symbol) => some symbol
  | _ => none

/-- The files that declare a type, through its own symbol or else through its alias. -/
def declarationFiles (store : Store) (id : TypeId) : List SourceFile :=
  match (store.declaringSymbol? id <|> (store.aliasOf? id).map (·.symbol)).bind store.symbol? with
  | some info => info.declarations.filterMap store.file?
  | none => []

/-! ### New stores -/

def libraryFileName : String := "/lib/lib.es5.d.ts"

/-- The error type and the intrinsic types under their handles. -/
def intrinsicTypes : Std.TreeMap TypeId StoredType :=
  Intrinsic.all.foldl (fun types kind => types.insert kind.id (.intrinsic kind))
    ((∅ : Std.TreeMap TypeId StoredType).insert errorType .error)

/-- Handle of the first type beyond the intrinsic ones. -/
def firstType : TypeId := ⟨13⟩

/-- A function type: callable, without properties. -/
def function (store : Store) : TypeId × Store := store.register (.object { callable := true })

def new (program : Program) : Store :=
  let bare : Store :=
    { types := intrinsicTypes, nextType := firstType, libraryFile := ⟨0⟩, methodType := errorType,
      program }
  let (libraryFile, store) := bare.addFile (.library libraryFileName)
  let (methodType, store) := store.function
  { store with libraryFile, methodType }

/-- The program of a store made without one. -/
def defaultProgram : Program :=
  { currentDirectory := "/project", typeRoots := ["/project/node_modules/@types"] }

end Store

end Immutability
