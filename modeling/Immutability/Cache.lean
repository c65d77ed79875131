import Immutability.Verdict

/-!
# Cached classifications

A result is filed under the place where a type was written, if it was written out, and always under
the identity of the type as well. A read uses the place when there is one and the identity otherwise,
never both. So two spellings of one type can carry different results, and a visit without a place
finds whatever was last found for the type.

An entry remembers the ceiling it was found under. A search stops once a value reaches its ceiling, so
a value at or above the ceiling only says "at least this much": it answers requests up to the ceiling.
-/

set_option autoImplicit false

namespace Immutability

inductive CacheKey where
  | node (node : NodeId)
  | identity (identity : Identity)
deriving DecidableEq, Repr

def CacheKey.text : CacheKey → String
  | node n => "Node(NodeId(" ++ toString n.index ++ "))"
  | identity i => "Identity(RecursionIdentity(" ++ toString i.index ++ "))"

/-- The key that reads use for a type of the given identity. -/
def TypeRef.key (ref : TypeRef) (identity : Identity) : CacheKey :=
  match ref.node with
  | some node => .node node
  | none => .identity identity

/-- A classification and the ceiling it was found under. -/
structure Entry where
  value : Status
  ceiling : Status := .known .immutable
deriving DecidableEq, Repr, Inhabited

namespace Entry

/-- The mark of a type whose classification is under way. -/
def inProgress : Entry := { value := .calculating }

/-- Whether the entry answers a request with this threshold. -/
def satisfies (entry : Entry) (threshold : Status) : Bool :=
  entry.value.isCalculating || !entry.value.isAtLeast entry.ceiling ||
    entry.ceiling.isAtLeast threshold

end Entry

/-- Classifications found so far. -/
structure Cache where
  nodes : Std.TreeMap NodeId Entry := ∅
  identities : Std.TreeMap Identity Entry := ∅

inductive Lookup where
  | absent
  /-- There is an entry, found under a ceiling that is too low. -/
  | below (value : Status)
  | hit (value : Status)
deriving DecidableEq, Repr

namespace Cache

instance : Inhabited Cache := ⟨{}⟩

def get? (cache : Cache) : CacheKey → Option Entry
  | .node node => cache.nodes[node]?
  | .identity identity => cache.identities[identity]?

/-- Files an entry under one key, in place of any other. -/
def insert (cache : Cache) (key : CacheKey) (entry : Entry) : Cache :=
  match key with
  | .node node => { cache with nodes := cache.nodes.insert node entry }
  | .identity identity => { cache with identities := cache.identities.insert identity entry }

/-- Files an entry for a type of the given identity: under its place, if it has one, and under the
identity. -/
def record (cache : Cache) (ref : TypeRef) (identity : Identity) (entry : Entry) : Cache :=
  let cache := match ref.node with
    | some node => cache.insert (.node node) entry
    | none => cache
  cache.insert (.identity identity) entry

def lookup (cache : Cache) (key : CacheKey) (threshold : Status) : Lookup :=
  match cache.get? key with
  | none => .absent
  | some entry => if entry.satisfies threshold then .hit entry.value else .below entry.value

def size (cache : Cache) : Nat := cache.nodes.size + cache.identities.size

@[simp] theorem get?_insert (cache : Cache) (key other : CacheKey) (entry : Entry) :
    (cache.insert key entry).get? other = if key = other then some entry else cache.get? other := by
  cases key <;> cases other <;> simp [insert, get?, Std.TreeMap.getElem?_insert]

/-- Filing an entry for a type changes the entries under its place and its identity, and no other. -/
theorem get?_record (cache : Cache) (ref : TypeRef) (identity : Identity) (entry : Entry)
    (key : CacheKey) :
    (cache.record ref identity entry).get? key =
      if key = .identity identity ∨ ref.node.map CacheKey.node = some key then some entry
      else cache.get? key := by
  rcases ref with ⟨id, _ | node⟩ <;> grind [record, get?_insert]

end Cache

end Immutability
