import Immutability.Store.Build

/-!
# Properties of stored types

The properties of an intersection are those of its members, merged by name in the order in which names
first occur. A merged property is read-only if one of its occurrences is, a method if all of them are,
private or optional if one of them is. Its type is the intersection of the types it has in the members,
so listing properties may store new intersections.
-/

set_option autoImplicit false

namespace Immutability

def PropertyFlags.merge (a b : PropertyFlags) : PropertyFlags where
  readonly := a.readonly || b.readonly
  method := a.method && b.method
  privateName := a.privateName || b.privateName
  optional := a.optional || b.optional

/-- What is known about a property from the occurrences seen so far. -/
structure MergedProperty where
  /-- The distinct types, in the order in which they were first seen. -/
  types : List TypeId
  flags : PropertyFlags
deriving DecidableEq, Repr

def MergedProperty.add (merged : MergedProperty) (property : Property) : MergedProperty where
  types :=
    if merged.types.contains property.type then merged.types else merged.types ++ [property.type]
  flags := merged.flags.merge property.flags

structure PropertyMerge where
  /-- The names, latest first. -/
  names : List String := []
  byName : Std.TreeMap String MergedProperty := ∅

namespace PropertyMerge

def add (merge : PropertyMerge) (property : Property) : PropertyMerge :=
  match merge.byName[property.name]? with
  | some merged => { merge with byName := merge.byName.insert property.name (merged.add property) }
  | none =>
    { names := property.name :: merge.names
      byName := merge.byName.insert property.name ⟨[property.type], property.flags⟩ }

def addAll (merge : PropertyMerge) (properties : List Property) : PropertyMerge :=
  properties.foldl add merge

/-- The merged properties in the order of their first occurrence. -/
def entries (merge : PropertyMerge) : List (String × MergedProperty) :=
  merge.names.reverse.filterMap fun name => merge.byName[name]?.map (name, ·)

end PropertyMerge

namespace Store

/-- Gives merged properties their types, storing the intersections that are new. -/
def closeMerge (store : Store) : List (String × MergedProperty) → List Property × Store
  | [] => ([], store)
  | (name, merged) :: rest =>
    let (type, store) := store.intersection merged.types
    let (properties, store) := store.closeMerge rest
    ({ name, type, flags := merged.flags } :: properties, store)

/-- Properties of a type, through at most `depth` levels of nested intersections. -/
def propertiesWithin : Nat → Store → TypeId → List Property × Store
  | 0, store, _ => ([], store)
  | depth + 1, store, id =>
    match store.get? id with
    | some (.object object) => (object.properties, store)
    | some (.intersection members) =>
      let (merge, store) := members.foldl
        (fun (merge, store) member =>
          let (properties, store) := propertiesWithin depth store member
          (merge.addAll properties, store))
        (({} : PropertyMerge), store)
      store.closeMerge merge.entries
    | _ => ([], store)

/-- Properties of a type. Intersections that do not contain themselves nest at most as deep as there
are types. -/
def properties (store : Store) (id : TypeId) : List Property × Store :=
  store.propertiesWithin (store.types.size + 1) id

/-- Whether a type has a call signature, through at most `depth` levels of nested intersections. -/
def callableWithin (store : Store) : Nat → TypeId → Bool
  | 0, _ => false
  | depth + 1, id =>
    match store.get? id with
    | some (.object object) => object.callable
    | some (.intersection members) => members.any (store.callableWithin depth)
    | _ => false

/-- Whether a type has a call signature; an intersection has one if one of its members does. -/
def callable (store : Store) (id : TypeId) : Bool := store.callableWithin (store.types.size + 1) id

end Store

end Immutability
