import Immutability.Proofs.Arrays

/-!
# Building arrays and tuples

A union, a tuple or an array is built of types that the store has, and stored in the name of a composite
that is no intersection. So building keeps all that was said of the types before, and what was clear
stays clear.
-/

set_option autoImplicit false

namespace Immutability

open Relation (ReflTransGen TransGen)

namespace Store

/-- The table and the symbols of the library have only grown, and there are no more intersections. The
types are what they were. -/
structure Retains (store later : Store) : Prop where
  grows : Grows store later
  types : ∀ id, store.Allocated id → later.get? id = store.get? id
  meets : ∀ members, later.interned? (.intersection members) = store.interned? (.intersection members)
  library : ∀ (name : String) (symbol : SymbolId), store.librarySymbols[name]? = some symbol →
    later.librarySymbols[name]? = some symbol

variable {store later : Store} {composite : Composite} {roots : List TypeId} {id : TypeId}

namespace Retains

theorem refl (store : Store) : Retains store store :=
  ⟨Grows.refl store, fun _ _ => rfl, fun _ => rfl, fun _ _ hsymbol => hsymbol⟩

theorem allocated (h : Retains store later) (hid : store.Allocated id) : later.Allocated id :=
  Nat.lt_of_lt_of_le hid h.grows.next_le

theorem trans {first second third : Store} (h : Retains first second) (g : Retains second third) :
    Retains first third where
  grows := h.grows.trans g.grows
  types id hid := (g.types id (h.allocated hid)).trans (h.types id hid)
  meets members := (g.meets members).trans (h.meets members)
  library name symbol hsymbol := g.library name symbol (h.library name symbol hsymbol)

theorem enroll (hnew : store.interned? composite = none)
    (hcomposite : ∀ members, composite ≠ .intersection members) (data : StoredType) :
    Retains store ((store.register data).2.intern composite store.nextType) where
  grows := Grows.enroll hnew data
  types id hid := by rw [get?_intern, get?_register, if_neg hid.ne_nextType]
  meets members := by rw [interned?_intern, if_neg (hcomposite members), interned?_register]
  library _ _ hsymbol := hsymbol

/-- A handle that the store had not given out may be defined later. -/
theorem define (h : Retains store later) (hid : ¬ store.Allocated id) (data : StoredType) :
    Retains store (later.define id data) where
  grows := h.grows.trans (Grows.define later id data)
  types other hother := by
    have hne : id ≠ other := by
      rintro rfl
      exact hid hother
    rw [get?_define, if_neg hne, h.types other hother]
  meets := h.meets
  library := h.library

end Retains

theorem retains_union (store : Store) (members : List TypeId) :
    Retains store (store.union members).2 := by
  rcases store.union_cases members with ⟨he, _⟩ | ⟨he, _⟩ <;> rw [he]
  · exact .refl store
  · cases hc : store.interned? (.union (distinct members)) with
    | some id =>
      rw [share_of_interned hc]
      exact .refl store
    | none =>
      rw [share_of_new hc]
      exact .enroll hc nofun _

theorem retains_tuple (store : Store) (readonly : Bool) (elements : List TypeId) :
    Retains store (store.tuple readonly elements).2 := by
  cases hc : store.interned? (.tuple readonly elements) with
  | some id =>
    simp only [tuple, allot_of_interned hc]
    exact .refl store
  | none =>
    have hallot := Retains.enroll hc (by intro members he; cases he) .pending
    simp only [tuple, allot_of_new hc]
    exact (hallot.trans (retains_union _ elements)).define (Nat.lt_irrefl _) _

theorem retains_librarySymbol (store : Store) (name : String) :
    Retains store (store.librarySymbol name).2 := by
  have hannotates := annotates_librarySymbol store name
  constructor
  case grows => exact Grows.of_eq hannotates.next_eq hannotates.interned_eq
  case types => exact fun id _ => by rw [get?, hannotates.types_eq, get?]
  case meets => exact fun members => by rw [interned?, hannotates.interned_eq, interned?]
  case library =>
    intro other symbol hsymbol
    cases hknown : store.librarySymbols[name]? with
    | some known =>
      simp only [librarySymbol, hknown]
      exact hsymbol
    | none =>
      have hne : name ≠ other := by
        rintro rfl
        rw [hknown] at hsymbol
        cases hsymbol
      simp [librarySymbol, hknown, declare, Std.TreeMap.getElem?_insert, hne, hsymbol]

theorem retains_reference (store : Store) (symbol : SymbolId) (arguments : List TypeId)
    (type : Store → ObjectType) :
    Retains store (store.reference symbol arguments fun _ later => (type later, later)).2 := by
  cases hc : store.interned? (.reference symbol arguments) with
  | some id =>
    simp only [reference, allot_of_interned hc]
    exact .refl store
  | none =>
    have hallot := Retains.enroll hc (by intro members he; cases he) .pending
    rw [reference_of_new hc, allot_of_new hc]
    exact hallot.define (Nat.lt_irrefl _) _

/-- An array is in the table under the symbol of the library. -/
theorem listOf_spec (store : Store) (readonly : Bool) (element : TypeId) :
    Retains store (store.listOf readonly element).2 ∧
    ∃ symbol, (store.listOf readonly element).2.librarySymbols[listName readonly]? = some symbol ∧
      (store.listOf readonly element).2.interned? (.reference symbol [element]) =
        some (store.listOf readonly element).1 := by
  have hsymbol := store.librarySymbols_librarySymbol (listName readonly)
  have hdeclared := store.retains_librarySymbol (listName readonly)
  unfold listOf
  revert hsymbol hdeclared
  generalize store.librarySymbol (listName readonly) = declared
  obtain ⟨symbol, middle⟩ := declared
  intro hsymbol hdeclared
  have hserved := served_reference middle symbol [element] (·.arrayType symbol readonly element)
  have hretains := middle.retains_reference symbol [element] (·.arrayType symbol readonly element)
  exact ⟨hdeclared.trans hretains, symbol, hretains.library _ _ hsymbol, hserved.interned _ rfl⟩

/-! ### What was clear stays clear -/

namespace Clear

theorem linked_of_retains (h : store.Clear roots) (hretains : Retains store later)
    (hid : store.Below roots id) {part : TypeId} (hlink : Linked StoredType.parts later id part) :
    Linked StoredType.parts store id part := by
  obtain ⟨data, hget, hpart⟩ := hlink
  rw [hretains.types id (h.allocated id hid)] at hget
  exact ⟨data, hget, hpart⟩

theorem reach_of_retains (h : store.Clear roots) (hretains : Retains store later)
    (hid : store.Below roots id) {other : TypeId}
    (hreach : ReflTransGen (Linked StoredType.parts later) id other) :
    ReflTransGen (Linked StoredType.parts store) id other ∧ store.Below roots other := by
  induction hreach with
  | refl => exact ⟨.refl, hid⟩
  | tail _ hlink ih =>
    obtain ⟨hbefore, hmiddle⟩ := ih
    have hold := h.linked_of_retains hretains hmiddle hlink
    exact ⟨hbefore.tail hold, hmiddle.part hold⟩

theorem below_of_retains (h : store.Clear roots) (hretains : Retains store later)
    (hid : later.Below roots id) : store.Below roots id := by
  obtain ⟨root, hroot, hreach⟩ := hid
  exact (h.reach_of_retains hretains (.of_mem hroot) hreach).2

theorem of_retains (h : store.Clear roots) (hretains : Retains store later) : later.Clear roots where
  allocated id hid := hretains.allocated (h.allocated id (h.below_of_retains hretains hid))
  meets members id hid member hmember := by
    rw [hretains.meets] at hid
    exact hretains.allocated (h.meets members id hid member hmember)
  acyclic id hid hcycle := by
    have hbefore := h.below_of_retains hretains hid
    obtain ⟨part, hlink, hback⟩ := TransGen.head'_iff.mp hcycle
    have hold := h.linked_of_retains hretains hbefore hlink
    have hdown := (h.reach_of_retains hretains (hbefore.part hold) hback).1
    exact h.acyclic id hbefore (TransGen.head'_iff.mpr ⟨part, hold, hdown⟩)
  placed := by
    have hbranch : ∀ ref, later.BranchBelow roots ref → store.BranchBelow roots ref := by
      rintro ref ⟨id, data, hid, hget, href⟩
      have hbefore := h.below_of_retains hretains hid
      rw [hretains.types id (h.allocated id hbefore)] at hget
      exact ⟨id, data, hbefore, hget, href⟩
    exact fun one two hone htwo => h.placed one two (hbranch one hone) (hbranch two htwo)

end Clear

/-! ### What arrays and tuples are made of -/

variable {part element : TypeId}

theorem cases_of_mem_parts {type : ObjectType} (h : part ∈ (StoredType.object type).parts) :
    (∃ property ∈ type.properties, property.type = part) ∨ part ∈ type.typeArguments ∨
      ∃ kind signature, type.index kind = some signature ∧ signature.value = part := by
  simp only [StoredType.parts, StoredType.mentions, List.mem_append, List.mem_map,
    Option.mem_toList, Option.map_eq_some_iff] at h
  rcases h with ((hproperty | hargument) | hstring) | hnumber
  · exact Or.inl hproperty
  · exact Or.inr (Or.inl hargument)
  · exact Or.inr (Or.inr ⟨.string, hstring⟩)
  · exact Or.inr (Or.inr ⟨.number, hnumber⟩)

theorem cases_of_mem_arrayType {symbol : SymbolId} {readonly : Bool}
    (h : part ∈ (StoredType.object (store.arrayType symbol readonly element)).parts) :
    part = Intrinsic.number.id ∨ part = store.methodType ∨ part = element := by
  rcases cases_of_mem_parts h with
    ⟨property, hproperty, rfl⟩ | hargument | ⟨kind, signature, hsignature, rfl⟩
  · rcases List.mem_cons.mp hproperty with rfl | hmember
    · exact Or.inl rfl
    · rw [type_of_mem_listMethods hmember]
      exact Or.inr (Or.inl rfl)
  · exact Or.inr (Or.inr (List.mem_singleton.mp hargument))
  · cases kind <;> cases hsignature
    exact Or.inr (Or.inr rfl)

theorem cases_of_mem_tupleType {readonly : Bool} {elements : List TypeId} {union : TypeId}
    (h : part ∈ (StoredType.object (store.tupleType readonly elements union)).parts) :
    part = Intrinsic.number.id ∨ part = store.methodType ∨ part ∈ elements ∨ part = union := by
  rcases cases_of_mem_parts h with
    ⟨property, hproperty, rfl⟩ | hargument | ⟨kind, signature, hsignature, rfl⟩
  · rcases cases_of_mem_tupleProperties hproperty with ⟨_, helement⟩ | ⟨_, hnumber⟩ | hmember
    · exact Or.inr (Or.inr (Or.inl helement))
    · exact Or.inl hnumber
    · rw [type_of_mem_listMethods hmember]
      exact Or.inr (Or.inl rfl)
  · exact Or.inr (Or.inr (Or.inl hargument))
  · cases kind <;> cases hsignature
    exact Or.inr (Or.inr (Or.inr rfl))

theorem Unites.cases {members : List TypeId} (h : store.Unites members id) :
    id = Intrinsic.never.id ∨ id ∈ members ∨
      ∃ distincts, distincts ⊆ members ∧ store.interned? (.union distincts) = some id := by
  have hsubset : distinct members ⊆ members := fun _ hmember => mem_distinct.mp hmember
  unfold Unites union at h
  rcases hd : distinct members with _ | ⟨first, _ | ⟨second, rest⟩⟩ <;> rw [hd] at h hsubset
  · cases h
    exact Or.inl rfl
  · cases h
    exact Or.inr (Or.inl (hsubset List.mem_cons_self))
  · dsimp only at h
    have hshared := interned?_share store (.union (first :: second :: rest))
      (.union (first :: second :: rest))
    rw [h] at hshared
    exact Or.inr (Or.inr ⟨_, hsubset, hshared⟩)

end Store

end Immutability
