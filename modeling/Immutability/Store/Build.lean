import Immutability.Store.Basic
import Std.Data.TreeSet

/-!
# Building types

Unions, intersections, tuples and references are stored once: building one again from the same parts
gives the same handle. A union or intersection drops later duplicates of its members; without members
it is the type `never`, and with one member it is that member.
-/

set_option autoImplicit false

namespace Immutability

/-- The elements not seen before, each at its first occurrence. -/
def distinctFrom (seen : Std.TreeSet TypeId) : List TypeId → List TypeId
  | [] => []
  | id :: rest =>
    if seen.contains id then distinctFrom seen rest
    else id :: distinctFrom (seen.insert id) rest

/-- The elements of a list, each at its first occurrence. -/
def distinct (ids : List TypeId) : List TypeId := distinctFrom ∅ ids

theorem mem_distinctFrom {seen : Std.TreeSet TypeId} {ids : List TypeId} {id : TypeId} :
    id ∈ distinctFrom seen ids ↔ id ∈ ids ∧ id ∉ seen := by
  induction ids generalizing seen with
  | nil => simp [distinctFrom]
  | cons first rest ih =>
    by_cases hseen : first ∈ seen
    · simp only [distinctFrom, Std.TreeSet.contains_iff_mem, hseen, if_true, ih]
      grind
    · simp only [distinctFrom, Std.TreeSet.contains_iff_mem, hseen, if_false, List.mem_cons, ih,
        Std.TreeSet.mem_insert, Std.LawfulEqCmp.compare_eq_iff_eq]
      grind

@[simp] theorem mem_distinct {ids : List TypeId} {id : TypeId} : id ∈ distinct ids ↔ id ∈ ids := by
  simp [distinct, mem_distinctFrom]

namespace Store

/-- The handle of a type that is stored once. -/
def interned? (store : Store) (composite : Composite) : Option TypeId :=
  store.interned[composite.code]?

/-- Makes a handle that of a type stored once. -/
def intern (store : Store) (composite : Composite) (id : TypeId) : Store :=
  { store with interned := store.interned.insert composite.code id }

/-- The handle of a type stored once, which is registered with the given data if it is new. -/
def share (store : Store) (composite : Composite) (data : StoredType) : TypeId × Store :=
  match store.interned? composite with
  | some id => (id, store)
  | none =>
    let (id, store) := store.register data
    (id, store.intern composite id)

/-- The handle of a type stored once, and whether it is new and so has to be defined. -/
def allot (store : Store) (composite : Composite) : TypeId × Bool × Store :=
  match store.interned? composite with
  | some id => (id, false, store)
  | none =>
    let (id, store) := store.reserve
    (id, true, store.intern composite id)

def union (store : Store) (members : List TypeId) : TypeId × Store :=
  match distinct members with
  | [] => (Intrinsic.never.id, store)
  | [member] => (member, store)
  | members => store.share (.union members) (.union members)

def intersection (store : Store) (members : List TypeId) : TypeId × Store :=
  match distinct members with
  | [] => (Intrinsic.never.id, store)
  | [member] => (member, store)
  | members => store.share (.intersection members) (.intersection members)

def literal (store : Store) (text : String) : TypeId × Store := store.register (.literal text)

def typeParameter (store : Store) (name : String) (declarations : List FileId) : TypeId × Store :=
  let (symbol, store) := store.declare name declarations
  store.register (.typeParameter symbol)

def conditional (store : Store) (type : ConditionalType) : TypeId × Store :=
  store.register (.conditional type)

def object (store : Store) (type : ObjectType) : TypeId × Store := store.register (.object type)

def record (store : Store) (properties : List Property) : TypeId × Store :=
  store.object { properties }

def interface (store : Store) (name : String) (declarations : List FileId)
    (properties : List Property) : TypeId × Store :=
  let (symbol, store) := store.declare name declarations
  store.object { symbol := some symbol, properties }

/-- A symbol applied to type arguments. The structure is built when the reference is new; it may
mention the handle of the reference, and building it may use the store. -/
def reference (store : Store) (symbol : SymbolId) (arguments : List TypeId)
    (build : TypeId → Store → ObjectType × Store) : TypeId × Store :=
  match store.allot (.reference symbol arguments) with
  | (id, false, store) => (id, store)
  | (id, true, store) =>
    let (type, store) := build id store
    (id, store.define id (.object type))

def arrayMethods : List String :=
  ["push", "pop", "shift", "unshift", "splice", "sort", "reverse", "fill", "concat", "slice", "map",
    "filter", "indexOf", "join"]

def readonlyArrayMethods : List String :=
  ["concat", "slice", "map", "filter", "indexOf", "includes", "join", "at", "every", "some"]

/-- The methods of arrays and tuples as properties. -/
def listMethods (store : Store) (readonly : Bool) : List Property :=
  (if readonly then readonlyArrayMethods else arrayMethods).map (Property.method · store.methodType)

def arrayType (store : Store) (symbol : SymbolId) (readonly : Bool) (element : TypeId) :
    ObjectType :=
  { kind := .array
    symbol := some symbol
    properties :=
      { name := "length", type := Intrinsic.number.id, flags := { readonly } } ::
        store.listMethods readonly
    isReference := true
    typeArguments := [element]
    numberIndex := some { value := element, readonly } }

def array (store : Store) (element : TypeId) : TypeId × Store :=
  let (symbol, store) := store.librarySymbol "Array"
  store.reference symbol [element] fun _ store => (store.arrayType symbol false element, store)

def readonlyArray (store : Store) (element : TypeId) : TypeId × Store :=
  let (symbol, store) := store.librarySymbol "ReadonlyArray"
  store.reference symbol [element] fun _ store => (store.arrayType symbol true element, store)

/-- Structure of a tuple type, given the union of its element types. The length of a tuple can be
written even where its elements cannot. -/
def tupleType (store : Store) (readonly : Bool) (elements : List TypeId) (union : TypeId) :
    ObjectType :=
  { kind := .tuple readonly
    properties :=
      elements.mapIdx (fun place type => { name := toString place, type, flags := { readonly } }) ++
        { name := "length", type := Intrinsic.number.id } :: store.listMethods readonly
    isReference := true
    typeArguments := elements
    numberIndex := some { value := union, readonly } }

/-- A tuple. Its handle is taken before the union of its element types is built. -/
def tuple (store : Store) (readonly : Bool) (elements : List TypeId) : TypeId × Store :=
  match store.allot (.tuple readonly elements) with
  | (id, false, store) => (id, store)
  | (id, true, store) =>
    let (union, store) := store.union elements
    (id, store.define id (.object (store.tupleType readonly elements union)))

end Store

end Immutability
