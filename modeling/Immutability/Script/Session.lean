import Immutability.Regex.Engine
import Immutability.Script.Expr
import Immutability.Script.Reply
import Immutability.Store.Host

/-!
# Sessions

A session is a store with the names that a script gave to types, symbols, files, rules, caches and
checkers. Names in instructions are resolved here; an unbound name has no meaning, so that the
instruction has none either.
-/

set_option autoImplicit false

namespace Immutability

/-- The rules of a configuration whose patterns are regular expressions. -/
def Rule.ofConfig (value : Value) : Except ConfigError (List Rule) := Rule.listOfValue .regex value

namespace Script

/-- Builds a rule. Nothing but its patterns is checked. -/
def RawRule.build (engine : Engine) (raw : RawRule) : Except ConfigError Rule := do
  let patterns ← compilePatterns engine raw.patterns
  let ignorePatterns ← compilePatterns engine raw.ignorePatterns
  return {
    specifier :=
      { names := raw.names, patterns, ignoreNames := raw.ignoreNames, ignorePatterns
        provenance := raw.provenance }
    target := raw.target
    origin := raw.origin }

/-- A store with the names given by a script. -/
structure Session where
  store : Store
  types : Std.TreeMap String TypeRef := ∅
  symbols : Std.TreeMap String SymbolId := ∅
  files : Std.TreeMap String FileId := ∅
  /-- Types that are recognised by another identity than their own. -/
  identities : Std.TreeMap TypeId Identity := ∅
  rules : Std.TreeMap String (List Rule) := ∅
  caches : Std.TreeMap String Cache := ∅
  checkers : Std.TreeMap String Checker := ∅
  /-- Number of the next traced query. -/
  nextQuery : Nat := 1

namespace Session

def new (program : Program) : Session := { store := .new program }

/-- The identity by which a type is recognised. -/
def identityOf (session : Session) (id : TypeId) : Identity :=
  session.identities[id]?.getD (Store.ownIdentity id)

def host (session : Session) : Host Store := Store.hostWith session.identityOf

/-! ### Names -/

def type? (session : Session) : TypeExpr → Option TypeRef
  | .name name =>
    session.types[name]? <|> (Intrinsic.ofName? name).map (fun kind => { id := kind.id }) <|>
      match name with
      | "error" => some { id := errorType }
      | "method" => some { id := session.store.methodType }
      | _ => none
  | .index index => some { id := ⟨index⟩ }
  | .written type node => (session.type? type).map fun ref => { ref with node := some ⟨node⟩ }

def typeId? (session : Session) (type : TypeExpr) : Option TypeId := (session.type? type).map (·.id)

def typeIds? (session : Session) (types : List TypeExpr) : Option (List TypeId) :=
  types.mapM session.typeId?

def symbol? (session : Session) : SymbolExpr → Option SymbolId
  | .name name => session.symbols[name]?
  | .index index => some ⟨index⟩

def file? (session : Session) : FileExpr → Option FileId
  | .name name => session.files[name]?
  | .index index => some ⟨index⟩

def rules? (session : Session) : RulesExpr → Option (List Rule)
  | .none => some []
  | .defaults => some Rule.defaults
  | .name name => session.rules[name]?

def property? (session : Session) (property : PropertyExpr) : Option Property := do
  return { name := property.name, type := ← session.typeId? property.type, flags := property.flags }

def index? (session : Session) (index : IndexExpr) : Option IndexSignature := do
  return { value := ← session.typeId? index.value, readonly := index.readonly }

def object? (session : Session) (object : ObjectExpr) : Option ObjectType := do
  return {
    kind := object.kind
    symbol := ← object.symbol.mapM session.symbol?
    properties := ← object.properties.mapM session.property?
    callable := object.callable
    isReference := object.isReference.getD object.typeArguments.isSome
    typeArguments := ← session.typeIds? (object.typeArguments.getD [])
    stringIndex := ← object.stringIndex.mapM session.index?
    numberIndex := ← object.numberIndex.mapM session.index? }

def conditional? (session : Session) (type : ConditionalExpr) : Option ConditionalType := do
  return {
    check := ← session.typeId? type.check
    extended := ← session.typeId? type.extended
    whenTrue := ← session.type? type.whenTrue
    whenFalse := ← session.type? type.whenFalse }

def data? (session : Session) : DataExpr → Option StoredType
  | .pending => some .pending
  | .error => some .error
  | .intrinsic kind => some (.intrinsic kind)
  | .literal text => some (.literal text)
  | .typeParameter symbol => (session.symbol? symbol).map .typeParameter
  | .union members => (session.typeIds? members).map .union
  | .intersection members => (session.typeIds? members).map .intersection
  | .conditional type => (session.conditional? type).map .conditional
  | .object type => (session.object? type).map .object

def bindType (session : Session) (label : Option String) (ref : TypeRef) : Session :=
  match label with
  | some label => { session with types := session.types.insert label ref }
  | none => session

def bindSymbol (session : Session) (label : String) (symbol : SymbolId) : Session :=
  { session with symbols := session.symbols.insert label symbol }

/-! ### Making types -/

def iterate (build : TypeId → Store → TypeId × Store) : Nat → TypeId → Store → TypeId × Store
  | 0, id, store => (id, store)
  | count + 1, id, store =>
    let (id, store) := build id store
    iterate build count id store

def link? (session : Session) : ChainKind → Option (TypeId → Store → TypeId × Store)
  | .object => some fun id store => store.record [.readonly "next" id]
  | .methodObject => some fun id store =>
    store.record [.readonly "next" id, .method "run" store.methodType]
  | .array => some fun id store => store.array id
  | .readonlyArray => some fun id store => store.readonlyArray id
  | .tuple readonly => some fun id store => store.tuple readonly [id]
  | .union => some fun id store =>
    let (fresh, store) := store.record []
    store.union [id, fresh]
  | .intersection => some fun id store =>
    let (fresh, store) := store.record []
    store.intersection [id, fresh]
  | .conditional => some fun id store =>
    store.conditional
      { check := Intrinsic.unknown.id, extended := Intrinsic.string.id, whenTrue := { id }
        whenFalse := { id := Intrinsic.null.id } }
  | .index => some fun id store =>
    store.object { stringIndex := some { value := id, readonly := true } }
  | .reference symbol => (session.symbol? symbol).map fun symbol id store =>
    store.reference symbol [id] fun _ store =>
      ({ symbol := some symbol, properties := [.readonly "value" id], isReference := true
         typeArguments := [id] }, store)

/-- New literals whose texts are numbered from the given number on, latest first before others. -/
def literals (stem : String) : Nat → Nat → List TypeId → Store → List TypeId × Store
  | 0, _, made, store => (made.reverse, store)
  | count + 1, number, made, store =>
    let (id, store) := store.literal (stem ++ toString number)
    literals stem count (number + 1) (id :: made) store

def spread (kind : WideKind) (stem : String) (members : List TypeId) (store : Store) :
    TypeId × Store :=
  match kind with
  | .union => store.union members
  | .intersection => store.intersection members
  | .tuple readonly => store.tuple readonly members
  | .object =>
    store.record (members.mapIdx fun place type => .readonly (stem ++ toString place) type)

/-- Makes a type that depends on no name of its own. -/
def build? (session : Session) : Builder → Option (TypeId × Store)
  | .reserve => some session.store.reserve
  | .intern data => (session.data? data).map session.store.register
  | .literal text => some (session.store.literal text)
  | .typeParameter name files =>
    (files.mapM session.file?).map (session.store.typeParameter name)
  | .union members => (session.typeIds? members).map session.store.union
  | .intersection members => (session.typeIds? members).map session.store.intersection
  | .conditional type => (session.conditional? type).map session.store.conditional
  | .record properties => (properties.mapM session.property?).map session.store.record
  | .object type => (session.object? type).map session.store.object
  | .interface name files properties => do
    let files ← files.mapM session.file?
    return session.store.interface name files (← properties.mapM session.property?)
  | .function => some session.store.function
  | .array element => (session.typeId? element).map session.store.array
  | .readonlyArray element => (session.typeId? element).map session.store.readonlyArray
  | .tuple readonly elements => (session.typeIds? elements).map (session.store.tuple readonly)
  | .reference .. => none
  | .chain kind base count => do
    let link ← session.link? kind
    return iterate link count (← session.typeId? base) session.store
  | .wide kind count stem (some type) => do
    let type ← session.typeId? type
    return spread kind stem (List.replicate count type) session.store
  | .wide kind count stem none =>
    let (members, store) := literals stem count 0 [] session.store
    some (spread kind stem members store)

/-- Makes a type and names it. The name of a reference is bound before its structure is resolved. -/
def make? (session : Session) (label : Option String) (builder : Builder) :
    Option (TypeId × Session) :=
  match builder with
  | .reference symbol arguments type => do
    let symbol ← session.symbol? symbol
    let arguments ← session.typeIds? arguments
    let (id, isNew, store) := session.store.allot (.reference symbol arguments)
    let session := { session with store }.bindType label { id }
    if isNew then
      let type ← session.object? type
      return (id, { session with store := session.store.define id (.object type) })
    else return (id, session)
  | builder => do
    let (id, store) ← session.build? builder
    return (id, { session with store }.bindType label { id })

end Session

end Script

end Immutability
