import Std.Data.TreeMap

/-!
# Handles

A handle is a number that stands for a type, a declared symbol, a source file, a place in source
where a type was written, or for all the spellings of one recursive type. Handles of different kinds
are different types; each kind is ordered by its numbers, so handles can be keys of a `TreeMap`.
-/

set_option autoImplicit false

namespace Immutability

inductive HandleKind where
  | type
  | symbol
  | file
  | node
  | identity
deriving DecidableEq, Repr

/-- A number standing for something of the given kind. -/
structure Handle (kind : HandleKind) where
  index : Nat
deriving DecidableEq, Repr, Inhabited

abbrev TypeId := Handle .type

/-- Handle of a declared symbol: an interface, a class, an alias, a type parameter. -/
abbrev SymbolId := Handle .symbol

abbrev FileId := Handle .file

/-- Handle of a place where a type was written out. -/
abbrev NodeId := Handle .node

/-- Key by which a host recognises one type in all its spellings. -/
abbrev Identity := Handle .identity

namespace Handle

variable {kind : HandleKind}

instance : Ord (Handle kind) := ⟨compareOn Handle.index⟩

instance : Std.TransOrd (Handle kind) := inferInstanceAs (Std.TransCmp (compareOn Handle.index))

theorem index_injective {a b : Handle kind} (h : a.index = b.index) : a = b := by
  cases a; cases b; exact congrArg Handle.mk h

instance : Std.LawfulEqOrd (Handle kind) where
  eq_of_compare {_ _} h := index_injective (Nat.compare_eq_eq.mp h)

def next (handle : Handle kind) : Handle kind := ⟨handle.index + 1⟩

end Handle

/-- A type together with the place where it was written, if it was written out.

The place matters for matching names and for filing results; the structure of a type is that of its
handle alone. -/
structure TypeRef where
  id : TypeId
  node : Option NodeId := none
deriving DecidableEq, Repr, Inhabited

instance : Coe TypeId TypeRef := ⟨fun id => { id }⟩

end Immutability
