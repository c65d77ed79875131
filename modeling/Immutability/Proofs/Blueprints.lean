import Immutability.Proofs.ArrayBuilding
import Immutability.Proofs.NestedIntersections

/-!
# Types built of arrays and tuples

A blueprint says how arrays and tuples are put around given types. Building it in a store that is looked
after gives a type whose verdict can be read off the blueprint and the verdicts of the given types, if
there is no cycle below these. Parts that were built before are handed out again, with the same handle,
so all that has to be known about the store is what its table says.
-/

set_option autoImplicit false

namespace Immutability

open Relation (ReflTransGen TransGen)
open Store

/-- Arrays and tuples around given types. -/
inductive Blueprint where
  | leaf (id : TypeId)
  | array (readonly : Bool) (element : Blueprint)
  | tuple (readonly : Bool) (elements : List Blueprint)

namespace Blueprint

mutual

/-- Builds the type of a blueprint, elements first. -/
def build (store : Store) : Blueprint → TypeId × Store
  | leaf id => (id, store)
  | array readonly element =>
    let (inner, store) := element.build store
    if readonly then store.readonlyArray inner else store.array inner
  | tuple readonly elements =>
    let (inner, store) := buildAll store elements
    store.tuple readonly inner

def buildAll (store : Store) : List Blueprint → List TypeId × Store
  | [] => ([], store)
  | first :: rest =>
    let (id, store) := first.build store
    let (ids, store) := buildAll store rest
    (id :: ids, store)

end

mutual

def verdict (value : TypeId → Verdict) : Blueprint → Verdict
  | leaf id => value id
  | array readonly element =>
    if readonly then (element.verdict value).sheltered else .known .mutable
  | tuple readonly elements =>
    if readonly then (Verdict.meetAll (verdicts value elements)).sheltered else .known .mutable

def verdicts (value : TypeId → Verdict) : List Blueprint → List Verdict
  | [] => []
  | first :: rest => first.verdict value :: verdicts value rest

end

mutual

def leaves : Blueprint → List TypeId
  | leaf id => [id]
  | array _ element => element.leaves
  | tuple _ elements => leavesAll elements

def leavesAll : List Blueprint → List TypeId
  | [] => []
  | first :: rest => first.leaves ++ leavesAll rest

end

/-! ### What the table says -/

mutual

/-- The handle of a blueprint in a store that has its type. -/
inductive Names (store : Store) : Blueprint → TypeId → Prop where
  | leaf (id : TypeId) : Names store (.leaf id) id
  | array {readonly : Bool} {element : Blueprint} {inner id : TypeId} {symbol : SymbolId} :
      Names store element inner → store.librarySymbols[listName readonly]? = some symbol →
      store.interned? (.reference symbol [inner]) = some id → Names store (.array readonly element) id
  | tuple {readonly : Bool} {elements : List Blueprint} {inner : List TypeId} {id : TypeId} :
      NamesAll store elements inner → store.interned? (.tuple readonly inner) = some id →
      Names store (.tuple readonly elements) id

inductive NamesAll (store : Store) : List Blueprint → List TypeId → Prop where
  | nil : NamesAll store [] []
  | cons {first : Blueprint} {rest : List Blueprint} {id : TypeId} {ids : List TypeId} :
      Names store first id → NamesAll store rest ids → NamesAll store (first :: rest) (id :: ids)

end

variable {store later : Store}

mutual

theorem Names.mono (h : Retains store later) {blueprint : Blueprint} {id : TypeId} :
    Names store blueprint id → Names later blueprint id
  | .leaf id => .leaf id
  | .array hinner hsymbol hid =>
    .array (hinner.mono h) (h.library _ _ hsymbol) (h.grows.interned_mono _ _ hid)
  | .tuple hinner hid => .tuple (hinner.mono h) (h.grows.interned_mono _ _ hid)

theorem NamesAll.mono (h : Retains store later) {blueprints : List Blueprint} {ids : List TypeId} :
    NamesAll store blueprints ids → NamesAll later blueprints ids
  | .nil => .nil
  | .cons hfirst hrest => .cons (hfirst.mono h) (hrest.mono h)

end

mutual

/-- What is built is in the table. -/
theorem build_spec (store : Store) : ∀ blueprint : Blueprint,
    Retains store (blueprint.build store).2 ∧
      Names (blueprint.build store).2 blueprint (blueprint.build store).1
  | leaf id => ⟨.refl store, .leaf id⟩
  | array readonly element => by
    obtain ⟨hretains, hnames⟩ := build_spec store element
    obtain ⟨hmore, symbol, hsymbol, hid⟩ :=
      (element.build store).2.listOf_spec readonly (element.build store).1
    have hbuild : (array readonly element).build store =
        (element.build store).2.listOf readonly (element.build store).1 :=
      (listOf_eq _ _ _).symm
    rw [hbuild]
    exact ⟨hretains.trans hmore, .array (hnames.mono hmore) hsymbol hid⟩
  | tuple readonly elements => by
    obtain ⟨hretains, hnames⟩ := buildAll_spec store elements
    have hmore := (buildAll store elements).2.retains_tuple readonly (buildAll store elements).1
    have hserved := served_tuple (buildAll store elements).2 readonly (buildAll store elements).1
    exact ⟨hretains.trans hmore, .tuple (hnames.mono hmore) (hserved.interned _ rfl)⟩

theorem buildAll_spec (store : Store) : ∀ blueprints : List Blueprint,
    Retains store (buildAll store blueprints).2 ∧
      NamesAll (buildAll store blueprints).2 blueprints (buildAll store blueprints).1
  | [] => ⟨.refl store, .nil⟩
  | first :: rest => by
    obtain ⟨hretains, hnames⟩ := build_spec store first
    obtain ⟨hmore, hrest⟩ := buildAll_spec (first.build store).2 rest
    exact ⟨hretains.trans hmore, .cons (hnames.mono hmore) hrest⟩

end

mutual

/-- The references to arrays of the library are made by building arrays only. -/
def Fair (store : Store) : Blueprint → Prop
  | leaf _ => True
  | array readonly element =>
    element.Fair store ∧ (element.build store).2.Unclaimed (listName readonly)
  | tuple _ elements => FairAll store elements

def FairAll (store : Store) : List Blueprint → Prop
  | [] => True
  | first :: rest => first.Fair store ∧ FairAll (first.build store).2 rest

end

mutual

theorem tends_build (store : Store) :
    ∀ blueprint : Blueprint, blueprint.Fair store → ReflTransGen Tends store (blueprint.build store).2
  | leaf _, _ => .refl
  | array readonly element, ⟨hfair, hunclaimed⟩ => by
    refine (tends_build store element hfair).tail ?_
    cases readonly with
    | false => exact .answer (.array (element.build store).1) trivial hunclaimed
    | true => exact .answer (.readonlyArray (element.build store).1) trivial hunclaimed
  | tuple readonly elements, hfair =>
    (tends_buildAll store elements hfair).tail
      (.answer (.tuple readonly (buildAll store elements).1) trivial trivial)

theorem tends_buildAll (store : Store) : ∀ blueprints : List Blueprint,
    FairAll store blueprints → ReflTransGen Tends store (buildAll store blueprints).2
  | [], _ => .refl
  | first :: rest, ⟨hfirst, hrest⟩ =>
    (tends_build store first hfirst).trans (tends_buildAll (first.build store).2 rest hrest)

end

/-! ### What is below a blueprint -/

/-- Clear roots that lead to all that is built into arrays and tuples. -/
structure Basis (store : Store) (roots : List TypeId) : Prop where
  clear : store.Clear roots
  number : store.Below roots Intrinsic.number.id
  never : store.Below roots Intrinsic.never.id
  method : store.Below roots store.methodType

variable {roots middle more : List TypeId} {id : TypeId} {data : StoredType}

structure Basis.Widens (store : Store) (roots more : List TypeId) : Prop where
  basis : Basis store more
  kept : ∀ id, store.Below roots id → store.Below more id

namespace Basis

theorem Widens.refl (h : Basis store roots) : Widens store roots roots := ⟨h, fun _ hid => hid⟩

theorem Widens.trans (h : Widens store roots middle) (g : Widens store middle more) :
    Widens store roots more := ⟨g.basis, fun id hid => g.kept id (h.kept id hid)⟩

theorem widens_cons (h : Basis store roots) (hid : store.Allocated id)
    (hget : store.get? id = some data) (hparts : ∀ part ∈ data.parts, store.Below roots part)
    (hbranches : data.branches = []) :
    Widens store roots (id :: roots) ∧ store.Below (id :: roots) id := by
  have hkept : ∀ other, store.Below roots other → store.Below (id :: roots) other :=
    fun _ ⟨root, hroot, hreach⟩ => ⟨root, List.mem_cons_of_mem _ hroot, hreach⟩
  refine ⟨⟨⟨h.clear.cons hid hget hparts hbranches, ?_, ?_, ?_⟩, hkept⟩, .of_mem List.mem_cons_self⟩
  · exact hkept _ h.number
  · exact hkept _ h.never
  · exact hkept _ h.method

theorem exists_union (h : Basis store roots) (hgenuine : Genuine store []) {members : List TypeId}
    (hmembers : ∀ member ∈ members, store.Below roots member) (hunites : store.Unites members id) :
    ∃ more, Widens store roots more ∧ store.Below more id := by
  rcases hunites.cases with rfl | hmember | ⟨distincts, hsubset, hid⟩
  · exact ⟨roots, .refl h, h.never⟩
  · exact ⟨roots, .refl h, hmembers id hmember⟩
  · have hget := hgenuine.rests _ _ hid List.not_mem_nil
    exact ⟨_, h.widens_cons (hgenuine.allocated _ _ hid) hget
      (fun part hpart => hmembers part (hsubset hpart)) rfl⟩

theorem widens_array (h : Basis store roots) (hid : store.Allocated id) {symbol : SymbolId}
    {readonly : Bool} {element : TypeId} (helement : store.Below roots element)
    (hget : store.get? id = some (.object (store.arrayType symbol readonly element))) :
    Widens store roots (id :: roots) ∧ store.Below (id :: roots) id := by
  refine h.widens_cons hid hget (fun part hpart => ?_) rfl
  rcases cases_of_mem_arrayType hpart with rfl | rfl | rfl
  · exact h.number
  · exact h.method
  · exact helement

theorem widens_tuple (h : Basis store roots) (hid : store.Allocated id) {readonly : Bool}
    {elements : List TypeId} {union : TypeId}
    (helements : ∀ element ∈ elements, store.Below roots element) (hunion : store.Below roots union)
    (hget : store.get? id = some (.object (store.tupleType readonly elements union))) :
    Widens store roots (id :: roots) ∧ store.Below (id :: roots) id := by
  refine h.widens_cons hid hget (fun part hpart => ?_) rfl
  rcases cases_of_mem_tupleType hpart with rfl | rfl | helement | rfl
  · exact h.number
  · exact h.method
  · exact helements part helement
  · exact hunion

end Basis

mutual

/-- The type of a blueprint is clear together with the given types. -/
theorem Names.exists_basis (hgenuine : Genuine store []) {blueprint : Blueprint} {id : TypeId}
    {roots : List TypeId} (h : Basis store roots) : Names store blueprint id →
    (∀ leaf ∈ blueprint.leaves, store.Below roots leaf) →
    ∃ more, Basis.Widens store roots more ∧ store.Below more id
  | .leaf id, hleaves => ⟨roots, .refl h, hleaves id (List.mem_singleton_self id)⟩
  | .array hinner hsymbol hid, hleaves => by
    obtain ⟨middle, hwidens, hbelow⟩ := hinner.exists_basis hgenuine h hleaves
    obtain ⟨element, hsame, hget⟩ := hgenuine.rests _ _ hid List.not_mem_nil _ hsymbol
    cases hsame
    obtain ⟨hlast, hroot⟩ := hwidens.basis.widens_array (hgenuine.allocated _ _ hid) hbelow hget
    exact ⟨_, hwidens.trans hlast, hroot⟩
  | .tuple hinner hid, hleaves => by
    -- first the elements, then their union, then the tuple
    obtain ⟨middle, hwidens, hbelow⟩ := hinner.exists_basis hgenuine h hleaves
    obtain ⟨union, hunites, hget⟩ := hgenuine.rests _ _ hid List.not_mem_nil
    obtain ⟨next, hnext, hunion⟩ := hwidens.basis.exists_union hgenuine hbelow hunites
    obtain ⟨hlast, hroot⟩ := hnext.basis.widens_tuple (hgenuine.allocated _ _ hid)
      (fun element helement => hnext.kept element (hbelow element helement)) hunion hget
    exact ⟨_, hwidens.trans (hnext.trans hlast), hroot⟩

theorem NamesAll.exists_basis (hgenuine : Genuine store []) {blueprints : List Blueprint}
    {ids : List TypeId} {roots : List TypeId} (h : Basis store roots) :
    NamesAll store blueprints ids → (∀ leaf ∈ leavesAll blueprints, store.Below roots leaf) →
    ∃ more, Basis.Widens store roots more ∧ ∀ id ∈ ids, store.Below more id
  | .nil, _ => ⟨roots, .refl h, List.forall_mem_nil _⟩
  | .cons hfirst hrest, hleaves => by
    obtain ⟨middle, hwidens, hbelow⟩ := hfirst.exists_basis hgenuine h
      fun leaf hleaf => hleaves leaf (List.mem_append_left _ hleaf)
    obtain ⟨more, hmore, hothers⟩ := hrest.exists_basis hgenuine hwidens.basis
      fun leaf hleaf => hwidens.kept leaf (hleaves leaf (List.mem_append_right _ hleaf))
    exact ⟨more, hwidens.trans hmore, List.forall_mem_cons.mpr ⟨hmore.kept _ hbelow, hothers⟩⟩

end

theorem exists_basis (hgenuine : Genuine store []) (h : store.Clear roots) :
    ∃ more, Basis store more ∧ ∀ id ∈ roots, store.Below more id := by
  obtain ⟨hmethod, hfunction⟩ := hgenuine.method
  have hnumber := h.cons (hgenuine.intrinsic_allocated .number) (hgenuine.intrinsic .number)
    (List.forall_mem_nil _) rfl
  have hnever := hnumber.cons (hgenuine.intrinsic_allocated .never) (hgenuine.intrinsic .never)
    (List.forall_mem_nil _) rfl
  have hclear := hnever.cons hgenuine.begun hfunction (List.forall_mem_nil _) rfl
  refine ⟨_, ⟨hclear, .of_mem (by simp), .of_mem (by simp), .of_mem (by simp [hmethod])⟩, ?_⟩
  exact fun id hid => .of_mem (by simp [hid])

/-! ### Verdicts -/

section Verdicts

variable (hgenuine : Genuine store []) (h : Basis store roots)
include hgenuine h

theorem Basis.get?_pruned (hid : store.Below roots id) :
    (store.pruned roots).get? id = (store.get? id).map StoredType.core :=
  get?_of_kept hgenuine.tidy h.clear (.reached hid)

theorem Basis.equipped : (store.pruned roots).Equipped where
  number := by
    rw [h.get?_pruned hgenuine h.number, hgenuine.intrinsic]
    rfl
  never := by
    rw [h.get?_pruned hgenuine h.never, hgenuine.intrinsic]
    rfl
  method := by
    change (store.pruned roots).get? store.methodType = _
    rw [h.get?_pruned hgenuine h.method, hgenuine.method.1, hgenuine.method.2]
    rfl

/-- The union of the elements of a tuple is not below the least of them. -/
theorem Basis.le_verdict_union {elements : List TypeId} {union : TypeId}
    (hunites : store.Unites elements union) (hunion : store.Below roots union) :
    let verdict := (regular_pruned hgenuine.tidy h.clear).verdict
    (Verdict.known .readonlyDeep).meet (.meetAll (elements.map verdict)) ≤ verdict union := by
  intro verdict
  have hleast : ∀ element ∈ elements, (Verdict.known .readonlyDeep).meet
      (.meetAll (elements.map verdict)) ≤ verdict element := fun element helement =>
    (Verdict.meet_le_right _ _).trans (Verdict.meetAll_le (List.mem_map_of_mem helement))
  -- the union collapses to `never` or to its only member, or it is stored
  rcases hunites.cases with rfl | helement | ⟨distincts, hsubset, hid⟩
  · rw [show verdict Intrinsic.never.id = .known .immutable from
      Regular.verdict_intrinsic _ (h.equipped hgenuine).never]
    exact (Verdict.meet_le_left _ _).trans (Verdict.known_le_known.mpr (Level.le_immutable _))
  · exact hleast union helement
  · have hget : (store.pruned roots).get? union = some (.union distincts) := by
      rw [h.get?_pruned hgenuine hunion, hgenuine.rests _ _ hid List.not_mem_nil]
      rfl
    rw [show verdict union = .meetAll (distincts.map verdict) from Regular.verdict_union _ hget]
    apply Verdict.le_meetAll
    intro found hfound
    obtain ⟨element, helement, rfl⟩ := List.mem_map.mp hfound
    exact hleast element (hsubset helement)

theorem Basis.verdict_array {symbol : SymbolId} {readonly : Bool} {element : TypeId}
    (hbelow : store.Below roots id)
    (hget : store.get? id = some (.object (store.arrayType symbol readonly element))) :
    let verdict := (regular_pruned hgenuine.tidy h.clear).verdict
    store.Below roots element ∧
      verdict id = if readonly then (verdict element).sheltered else .known .mutable := by
  have hargument : element ∈ store.typeArguments id := by
    simp [typeArguments, object?, hget, arrayType]
  refine ⟨hbelow.part (linked_of_typeArguments hargument), ?_⟩
  apply Regular.verdict_array _ (h.equipped hgenuine)
  rw [h.get?_pruned hgenuine hbelow, hget]
  rfl

theorem Basis.verdict_tuple {readonly : Bool} {elements : List TypeId} {union : TypeId}
    (hbelow : store.Below roots id) (hunites : store.Unites elements union)
    (hget : store.get? id = some (.object (store.tupleType readonly elements union))) :
    let verdict := (regular_pruned hgenuine.tidy h.clear).verdict
    (∀ element ∈ elements, store.Below roots element) ∧
      verdict id = if readonly then (Verdict.meetAll (elements.map verdict)).sheltered
        else .known .mutable := by
  have hargument : ∀ element ∈ elements, element ∈ store.typeArguments id := by
    simp [typeArguments, object?, hget, tupleType]
  have hsignature : store.indexSignature id .number = some { value := union, readonly } := by
    simp [indexSignature, object?, hget, tupleType, ObjectType.index]
  refine ⟨fun element helement => hbelow.part (linked_of_typeArguments (hargument element helement)), ?_⟩
  apply Regular.verdict_tuple _ (h.equipped hgenuine)
  · rw [h.get?_pruned hgenuine hbelow, hget]
    rfl
  · exact h.le_verdict_union hgenuine hunites (hbelow.part (linked_of_indexSignature hsignature))

end Verdicts

mutual

theorem Names.verdict_eq (hgenuine : Genuine store []) (h : Basis store roots)
    {blueprint : Blueprint} {id : TypeId} : Names store blueprint id → store.Below roots id →
    (regular_pruned hgenuine.tidy h.clear).verdict id =
      blueprint.verdict (regular_pruned hgenuine.tidy h.clear).verdict
  | .leaf id, _ => rfl
  | .array hinner hsymbol hid, hbelow => by
    obtain ⟨element, hsame, hget⟩ := hgenuine.rests _ _ hid List.not_mem_nil _ hsymbol
    cases hsame
    obtain ⟨helement, hverdict⟩ := h.verdict_array hgenuine hbelow hget
    rw [hverdict, hinner.verdict_eq hgenuine h helement, verdict]
  | .tuple hinner hid, hbelow => by
    obtain ⟨union, hunites, hget⟩ := hgenuine.rests _ _ hid List.not_mem_nil
    obtain ⟨helements, hverdict⟩ := h.verdict_tuple hgenuine hbelow hunites hget
    rw [hverdict, hinner.verdict_eq hgenuine h helements, verdict]

theorem NamesAll.verdict_eq (hgenuine : Genuine store []) (h : Basis store roots)
    {blueprints : List Blueprint} {ids : List TypeId} : NamesAll store blueprints ids →
    (∀ id ∈ ids, store.Below roots id) →
    ids.map (regular_pruned hgenuine.tidy h.clear).verdict =
      verdicts (regular_pruned hgenuine.tidy h.clear).verdict blueprints
  | .nil, _ => rfl
  | .cons hfirst hrest, hbelow => by
    obtain ⟨hid, hids⟩ := List.forall_mem_cons.mp hbelow
    rw [List.map_cons, hfirst.verdict_eq hgenuine h hid, hrest.verdict_eq hgenuine h hids, verdicts]

end

/-- A store with a type that is part of itself, one that mentions a handle not given out, and a choice
`⟨21⟩` of an intersection of two boxes. -/
def stock : Store :=
  [.record [.readonly "next" ⟨14⟩],
   .record [.readonly "lost" ⟨99⟩],
   .record [.readonly "size" Intrinsic.number.id],
   .record [.readonly "size" Intrinsic.string.id],
   .record [.readonly "content" ⟨16⟩],
   .record [.readonly "content" ⟨17⟩],
   .intersection [⟨18⟩, ⟨19⟩],
   History.optional ⟨⟨20⟩, some ⟨1⟩⟩].foldl (fun store call => (Call.run store call).2)
    (new defaultProgram)

theorem tends_stock : ReflTransGen Tends (new defaultProgram) stock := by
  have hcalls : ∀ (calls : List Call) (store : Store),
      (∀ call ∈ calls, ∀ store, call.Direct store ∧ call.Fair store) →
      ReflTransGen Tends store (calls.foldl (fun store call => (Call.run store call).2) store) := by
    intro calls
    induction calls with
    | nil => exact fun _ _ => .refl
    | cons call rest ih =>
      intro store hcalls
      obtain ⟨hcall, hrest⟩ := List.forall_mem_cons.mp hcalls
      exact .head (.answer call (hcall store).1 (hcall store).2) (ih _ hrest)
  apply hcalls
  simp [Call.Direct, Call.Fair, History.optional]

/-- A tuple of a read-only array, a number and an empty tuple. -/
def shelf : Blueprint :=
  tuple true [array true (leaf ⟨21⟩), leaf Intrinsic.number.id, tuple true []]

/-- A type that is built of arrays and tuples answers by its blueprint, from the answers of the given
types alone, if all is clear below these. -/
theorem answers_blueprint {program : Program} (hstore : ReflTransGen Tends (new program) store)
    {blueprint : Blueprint} (hfair : blueprint.Fair store) (hclear : store.Clear blueprint.leaves)
    {id : TypeId} (hbuild : blueprint.build store = (id, later)) :
    ∃ value : TypeId → Verdict, (∀ leaf ∈ blueprint.leaves, later.ClassifiedAs leaf (value leaf)) ∧
      later.ClassifiedAs id (blueprint.verdict value) := by
  obtain ⟨hretains, hnames⟩ := build_spec store blueprint
  have htends := hstore.trans (tends_build store blueprint hfair)
  rw [hbuild] at hretains hnames htends
  have hgenuine := genuine_of_tends htends
  obtain ⟨roots, hroots, hleaves⟩ := exists_basis hgenuine (hclear.of_retains hretains)
  obtain ⟨more, hwidens, hid⟩ := hnames.exists_basis hgenuine hroots hleaves
  have htidy := hgenuine.tidy
  -- one pruned store tells the verdicts of the given types and of what is built of them
  refine ⟨(regular_pruned htidy hwidens.basis.clear).verdict, fun leaf hleaf => ?_, ?_⟩
  · exact hwidens.basis.clear.answers htidy (hwidens.kept leaf (hleaves leaf hleaf))
  · rw [← hnames.verdict_eq hgenuine hwidens.basis hid]
    exact hwidens.basis.clear.answers htidy hid

theorem answers_shelf :
    ReflTransGen Tends (new defaultProgram) stock ∧ shelf.Fair stock ∧ stock.Clear shelf.leaves ∧
    ∃ value : TypeId → Verdict,
      (∀ leaf ∈ shelf.leaves, (shelf.build stock).2.ClassifiedAs leaf (value leaf)) ∧
      (shelf.build stock).2.ClassifiedAs (shelf.build stock).1 (shelf.verdict value) := by
  have hreferences : ∀ code ∈ stock.interned.keys, code.head? ≠ some 4 := by decide +kernel
  have hfair : shelf.Fair stock := by
    have hunclaimed : stock.Unclaimed "ReadonlyArray" := by
      intro _ arguments
      apply Std.TreeMap.getElem?_eq_none
      rw [← Std.TreeMap.mem_keys]
      exact fun hcode => hreferences _ hcode rfl
    simp [shelf, Fair, FairAll, build, listName, hunclaimed]
  have hsinks : stock.Sinks [⟨21⟩, ⟨20⟩, ⟨18⟩, ⟨19⟩, ⟨16⟩, ⟨17⟩, Intrinsic.null.id,
      Intrinsic.number.id, Intrinsic.string.id] := by
    decide +kernel
  have hclear : stock.Clear shelf.leaves := by
    apply hsinks.clear
    · decide +kernel
    · unfold Allocated
      decide +kernel
    · decide +kernel
    · decide +kernel
  exact ⟨tends_stock, hfair, hclear, answers_blueprint tends_stock hfair hclear Prod.mk.eta.symm⟩

/-! ### What goes wrong otherwise -/

/-- The intrinsic types and the type of library methods are as they were made, and no symbol of the
library is declared. -/
def Spared (store : Store) : Prop :=
  (∀ kind ∈ Intrinsic.all, store.get? kind.id = some (.intrinsic kind)) ∧
    store.get? store.methodType = some (.object { callable := true }) ∧
    store.librarySymbols.isEmpty = true

instance (store : Store) : Decidable (Spared store) :=
  inferInstanceAs (Decidable ((∀ kind ∈ Intrinsic.all, _) ∧ _ ∧ _))

/-- No type below the roots is part of itself. -/
def Uncycled (store : Store) (roots : List TypeId) : Prop :=
  ∀ id, store.Below roots id → ¬ TransGen (Linked StoredType.parts store) id id

def status? (store : Store) (id : TypeId) : Option Status :=
  (Machine.run host [] 100 { id } .immutable { state := store }).toOption.map (·.status)

/-- A read-only tuple that was redefined as an object that can be assigned to. -/
def redefined : Store :=
  ((new defaultProgram).tuple true [Intrinsic.number.id]).2.define ⟨14⟩
    (.object { properties := [{ name := "x", type := Intrinsic.number.id }] })

/-- Choices `⟨16⟩` and `⟨17⟩` of two different types that were written out at the same place. -/
def crossed : Store := (History.built
  [.record [.readonly "a" Intrinsic.number.id],
   .record [{ name := "b", type := Intrinsic.number.id }],
   History.optional ⟨⟨14⟩, some ⟨7⟩⟩,
   History.optional ⟨⟨15⟩, some ⟨7⟩⟩]).store

/-- The dictionary `⟨20⟩` has values under a handle that is not given out before the properties of the
intersection `⟨19⟩` are listed. -/
def premature : Store := (History.built
  [.record [.readonly "a" Intrinsic.number.id],
   .record [.readonly "b" Intrinsic.number.id],
   .record [{ name := "x", type := Intrinsic.number.id }],
   .record [.readonly "p" ⟨14⟩],
   .record [.readonly "p" ⟨15⟩],
   .intersection [⟨17⟩, ⟨18⟩],
   History.readonlyDictionary ⟨25⟩,
   History.readonlyDictionary ⟨16⟩,
   .intersection [⟨20⟩, ⟨21⟩]]).store

/-- A tuple that was redefined is handed out again and answers as what it became. Where a place is of two
types, the verdict of the first stands in for that of the second. And a handle that is used before it is
given out comes to be another type while the tuple is judged. -/
theorem tuple_not_sheltered :
    (let built := redefined.tuple true [Intrinsic.number.id];
      Spared redefined ∧ Uncycled redefined [Intrinsic.number.id] ∧
      status? built.2 Intrinsic.number.id = some (.known .immutable) ∧
      (Verdict.meetAll [.known .immutable]).sheltered = .known .readonlyDeep ∧
      status? built.2 built.1 = some (.known .mutable)) ∧
    (let built := crossed.tuple true [⟨16⟩, ⟨17⟩];
      Spared crossed ∧ Uncycled crossed [⟨16⟩, ⟨17⟩] ∧
      status? built.2 ⟨16⟩ = some (.known .immutable) ∧
      status? built.2 ⟨17⟩ = some (.known .mutable) ∧
      (Verdict.meetAll [.known .immutable, .known .mutable]).sheltered = .known .readonlyShallow ∧
      status? built.2 built.1 = some (.known .readonlyDeep)) ∧
    (let built := premature.tuple true [⟨19⟩, ⟨22⟩];
      Spared premature ∧ Uncycled premature [⟨19⟩, ⟨22⟩] ∧
      status? built.2 ⟨19⟩ = some (.known .immutable) ∧
      status? built.2 ⟨22⟩ = some (.known .readonlyShallow) ∧
      (Verdict.meetAll [.known .immutable, .known .readonlyShallow]).sheltered =
        .known .readonlyShallow ∧
      status? built.2 built.1 = some (.known .readonlyDeep)) := by
  have hredefined : redefined.Sinks [Intrinsic.number.id] := by decide +kernel
  have hcrossed : crossed.Sinks [⟨16⟩, ⟨17⟩, ⟨14⟩, ⟨15⟩, Intrinsic.null.id, Intrinsic.number.id] := by
    decide +kernel
  have hpremature : premature.Sinks
      [⟨22⟩, ⟨19⟩, ⟨20⟩, ⟨21⟩, ⟨17⟩, ⟨18⟩, ⟨14⟩, ⟨15⟩, ⟨16⟩, ⟨25⟩, Intrinsic.number.id] := by
    decide +kernel
  refine ⟨⟨by decide +kernel, fun id hid => ?_, by decide +kernel⟩,
    ⟨by decide +kernel, fun id hid => ?_, by decide +kernel⟩,
    ⟨by decide +kernel, fun id hid => ?_, by decide +kernel⟩⟩
  · exact hredefined.acyclic (hredefined.mem_of_below (by decide) hid)
  · exact hcrossed.acyclic (hcrossed.mem_of_below (by decide) hid)
  · exact hpremature.acyclic (hpremature.mem_of_below (by decide) hid)

end Blueprint

end Immutability
