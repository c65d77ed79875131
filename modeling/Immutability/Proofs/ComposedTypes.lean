import Immutability.Proofs.ArrayBuilding
import Immutability.Proofs.Declarations

/-!
# Types that are composed of the intrinsic types

A type is composed if it was built from intrinsic types and other composed types, as a union, an
intersection, a tuple or an array of the library. In a store that is looked after, such a type stays in
the table under what it was built from, and the symbols of the library keep their names
(`stocked_of_composed`).
-/

set_option autoImplicit false

namespace Immutability

def Composite.joined (meet : Bool) (members : List TypeId) : Composite :=
  if meet then .intersection members else .union members

def StoredType.joined (meet : Bool) (members : List TypeId) : StoredType :=
  if meet then .intersection members else .union members

def Store.join (store : Store) (meet : Bool) (members : List TypeId) : TypeId × Store :=
  if meet then store.intersection members else store.union members

inductive Form where
  | intrinsic (kind : Intrinsic)
  | joined (meet : Bool) (members : List TypeId)
  | tuple (readonly : Bool) (elements : List TypeId)
  | list (readonly : Bool) (element : TypeId)

namespace Form

def parts : Form → List TypeId
  | intrinsic _ => []
  | joined _ members => members
  | tuple _ elements => elements
  | list _ element => [element]

def Stored (store : Store) (id : TypeId) : Form → Prop
  | intrinsic kind => id = kind.id
  | joined meet members =>
    2 ≤ members.length ∧ store.interned? (.joined meet members) = some id
  | tuple readonly elements => store.interned? (.tuple readonly elements) = some id
  | list readonly element => ∃ symbol,
      store.librarySymbols[Store.listName readonly]? = some symbol ∧
        store.interned? (.reference symbol [element]) = some id

/-- A form is stored once. -/
theorem Stored.unique {store : Store} {id other : TypeId} {form : Form} (h : form.Stored store id)
    (hother : form.Stored store other) : id = other := by
  cases form with
  | intrinsic kind => exact Eq.trans h (Eq.symm hother)
  | joined meet members => exact Option.some.inj (h.2.symm.trans hother.2)
  | tuple readonly elements => exact Option.some.inj (Eq.trans (Eq.symm h) hother)
  | list readonly element =>
    obtain ⟨symbol, hsymbol, hid⟩ := h
    obtain ⟨same, hsame, hother⟩ := hother
    cases hsymbol.symm.trans hsame
    exact Option.some.inj (hid.symm.trans hother)

end Form

namespace Store

/-- The type is stored in some form, and so is all that it is made of, down to the intrinsic types. -/
inductive Built (store : Store) : TypeId → Prop
  | of (form : Form) (id : TypeId) (stored : form.Stored store id)
      (parts : ∀ part ∈ form.parts, Built store part) : Built store id

/-- Every symbol of the library has the name that it is known by. -/
def Labelled (store : Store) : Prop :=
  ∀ (name : String) symbol, store.librarySymbols[name]? = some symbol →
    store.symbolName? symbol = some name

def KeepsSymbols (store later : Store) : Prop :=
  ∀ symbol info, store.symbol? symbol = some info → later.symbol? symbol = some info

/-- The call builds a union, an intersection, a tuple or an array of types from a list. -/
def Call.Composes (made : List TypeId) : Call → Prop
  | union members => members ⊆ made
  | intersection members => members ⊆ made
  | array element => element ∈ made
  | readonlyArray element => element ∈ made
  | tuple _ elements => elements ⊆ made
  | _ => False

/-- A store that was looked after since it was new, and types that were composed in it. -/
inductive Composed (program : Program) : Store → List TypeId → Prop
  | start : Composed program (new program) (Intrinsic.all.map (·.id))
  | tend {store later : Store} {made : List TypeId} (composed : Composed program store made)
      (tends : Tends store later) (keeps : KeepsSymbols store later) : Composed program later made
  | make {store : Store} {made : List TypeId} (composed : Composed program store made) (call : Call)
      (composes : call.Composes made) (fair : call.Fair store) :
      Composed program (call.run store).2 ((call.run store).1 :: made)

variable {store later : Store} {made : List TypeId} {id : TypeId}

/-! ### The symbols of the library -/

theorem symbols_share (store : Store) (composite : Composite) (data : StoredType) :
    (store.share composite data).2.symbols = store.symbols ∧
      (store.share composite data).2.librarySymbols = store.librarySymbols := by
  unfold share
  split <;> exact ⟨rfl, rfl⟩

theorem symbols_allot (store : Store) (composite : Composite) :
    (store.allot composite).2.2.symbols = store.symbols ∧
      (store.allot composite).2.2.librarySymbols = store.librarySymbols := by
  unfold allot
  split <;> exact ⟨rfl, rfl⟩

theorem join_eq (store : Store) (meet : Bool) (members : List TypeId) :
    store.join meet members = match distinct members with
      | [] => (Intrinsic.never.id, store)
      | [member] => (member, store)
      | members => store.share (.joined meet members) (.joined meet members) := by
  cases meet <;> rfl

theorem symbols_join (store : Store) (meet : Bool) (members : List TypeId) :
    (store.join meet members).2.symbols = store.symbols ∧
      (store.join meet members).2.librarySymbols = store.librarySymbols := by
  rw [join_eq]
  split
  · exact ⟨rfl, rfl⟩
  · exact ⟨rfl, rfl⟩
  · exact symbols_share _ _ _

theorem symbols_tuple (store : Store) (readonly : Bool) (elements : List TypeId) :
    (store.tuple readonly elements).2.symbols = store.symbols ∧
      (store.tuple readonly elements).2.librarySymbols = store.librarySymbols := by
  have hallot := store.symbols_allot (.tuple readonly elements)
  unfold tuple
  split
  · next he => rwa [he] at hallot
  · next later he =>
    rw [he] at hallot
    have hunion := later.symbols_join false elements
    exact ⟨hunion.1.trans hallot.1, hunion.2.trans hallot.2⟩

theorem symbols_reference (store : Store) (symbol : SymbolId) (arguments : List TypeId)
    (type : Store → ObjectType) :
    (store.reference symbol arguments fun _ later => (type later, later)).2.symbols = store.symbols ∧
      (store.reference symbol arguments fun _ later => (type later, later)).2.librarySymbols =
        store.librarySymbols := by
  have hallot := store.symbols_allot (.reference symbol arguments)
  unfold reference
  split
  · next he => rwa [he] at hallot
  · next he => rwa [he] at hallot

theorem symbols_properties (store : Store) (id : TypeId) :
    (store.properties id).2.symbols = store.symbols ∧
      (store.properties id).2.librarySymbols = store.librarySymbols := by
  apply propertiesWithin_keeps fun later : Store =>
    later.symbols = store.symbols ∧ later.librarySymbols = store.librarySymbols
  · intro later members hlater
    have hjoin := later.symbols_join true members
    exact ⟨hjoin.1.trans hlater.1, hjoin.2.trans hlater.2⟩
  · exact ⟨rfl, rfl⟩

theorem keepsSymbols_of_eq (h : later.symbols = store.symbols) : KeepsSymbols store later := by
  intro symbol info hinfo
  rwa [symbol?, h]

theorem KeepsSymbols.symbolName? (h : KeepsSymbols store later) {symbol : SymbolId} {name : String}
    (hname : store.symbolName? symbol = some name) : later.symbolName? symbol = some name := by
  obtain ⟨info, hinfo, rfl⟩ := Option.map_eq_some_iff.mp hname
  rw [Store.symbolName?, h symbol info hinfo]
  rfl

theorem keepsSymbols_librarySymbol (store : Store) (name : String) :
    KeepsSymbols store (store.librarySymbol name).2 := by
  intro symbol info hinfo
  cases hknown : store.librarySymbols[name]? with
  | some known =>
    simp only [librarySymbol, hknown]
    exact hinfo
  | none =>
    have hne : symbol ≠ ⟨store.symbols.size + 1⟩ := by
      rintro rfl
      simp [symbol?] at hinfo
    simp only [librarySymbol, hknown]
    change (store.declare name _).2.symbol? symbol = some info
    rw [symbol?_declare, if_neg hne]
    exact hinfo

theorem label_librarySymbol (store : Store) (name : String) {other : String} {symbol : SymbolId}
    (h : (store.librarySymbol name).2.librarySymbols[other]? = some symbol) :
    store.librarySymbols[other]? = some symbol ∨
      (store.librarySymbol name).2.symbolName? symbol = some other := by
  cases hknown : store.librarySymbols[name]? with
  | some known =>
    simp only [librarySymbol, hknown] at h
    exact Or.inl h
  | none =>
    simp only [librarySymbol, hknown, Std.TreeMap.getElem?_insert] at h ⊢
    split at h
    · next hname =>
      cases h
      obtain rfl := Std.LawfulEqCmp.compare_eq_iff_eq.mp hname
      refine Or.inr ?_
      change ((store.declare name _).2.symbol? ⟨store.symbols.size + 1⟩).map _ = some name
      rw [symbol?_declare, if_pos rfl]
      rfl
    · exact Or.inl h

/-! ### What a store keeps -/

/-- The table and the symbols of the library have only grown, by symbols that have their names. -/
structure Enlarges (store later : Store) : Prop where
  composites : ∀ composite id, store.interned? composite = some id →
    later.interned? composite = some id
  library : ∀ (name : String) symbol, store.librarySymbols[name]? = some symbol →
    later.librarySymbols[name]? = some symbol
  labels : ∀ (name : String) symbol, later.librarySymbols[name]? = some symbol →
    store.librarySymbols[name]? = some symbol ∨ later.symbolName? symbol = some name

theorem enlarges_of_grows (hgrows : Grows store later)
    (hlibrary : later.librarySymbols = store.librarySymbols) : Enlarges store later where
  composites := hgrows.interned_mono
  library name symbol hsymbol := by rwa [hlibrary]
  labels name symbol hsymbol := Or.inl (by rwa [← hlibrary])

theorem enlarges_librarySymbol (store : Store) (name : String) :
    Enlarges store (store.librarySymbol name).2 where
  composites := (store.retains_librarySymbol name).grows.interned_mono
  library := (store.retains_librarySymbol name).library
  labels _ _ := store.label_librarySymbol name

theorem symbols_listOf (store : Store) (readonly : Bool) (element : TypeId) :
    (store.listOf readonly element).2.symbols =
        (store.librarySymbol (listName readonly)).2.symbols ∧
      (store.listOf readonly element).2.librarySymbols =
        (store.librarySymbol (listName readonly)).2.librarySymbols :=
  symbols_reference _ _ _ fun later =>
    later.arrayType (store.librarySymbol (listName readonly)).1 readonly element

theorem enlarges_listOf (store : Store) (readonly : Bool) (element : TypeId) :
    Enlarges store (store.listOf readonly element).2 := by
  obtain ⟨hretains, _⟩ := store.listOf_spec readonly element
  obtain ⟨hsymbols, hlibrary⟩ := store.symbols_listOf readonly element
  refine ⟨hretains.grows.interned_mono, hretains.library, fun name symbol hsymbol => ?_⟩
  rw [hlibrary] at hsymbol
  refine (store.label_librarySymbol _ hsymbol).imp_right fun hname => ?_
  exact (keepsSymbols_of_eq hsymbols).symbolName? hname

theorem Call.enlarges {call : Call} (h : call.Direct store) : Enlarges store (call.run store).2 := by
  have hgrows := (Call.served h).grows
  cases call with
  | array element => exact store.enlarges_listOf false element
  | readonlyArray element => exact store.enlarges_listOf true element
  | union members => exact enlarges_of_grows hgrows (store.symbols_join false members).2
  | intersection members => exact enlarges_of_grows hgrows (store.symbols_join true members).2
  | tuple readonly elements => exact enlarges_of_grows hgrows (store.symbols_tuple readonly elements).2
  | reference symbol arguments build =>
    obtain ⟨id, hid⟩ := Option.ne_none_iff_exists'.mp h
    refine enlarges_of_grows hgrows ?_
    simp only [Call.run, Store.reference, allot_of_interned hid]
  | _ => exact enlarges_of_grows hgrows rfl

theorem Tends.enlarges (h : Tends store later) : Enlarges store later := by
  cases h with
  | answer call direct fair => exact Call.enlarges direct
  | allot symbol arguments foreign =>
    refine enlarges_of_grows ?_ (store.symbols_allot _).2
    cases hc : store.interned? (.reference symbol arguments) with
    | some id =>
      rw [allot_of_interned hc]
      exact Grows.refl store
    | none =>
      rw [allot_of_new hc]
      exact Grows.enroll hc .pending
  | define id data free => exact enlarges_of_grows (Grows.define store id data) rfl
  | list id => exact enlarges_of_grows (grows_properties store id) (store.symbols_properties id).2
  | library name unclaimed => exact store.enlarges_librarySymbol name
  | annotate later annotates library method symbols =>
    exact enlarges_of_grows (Grows.of_eq annotates.next_eq annotates.interned_eq) library

theorem Built.mono (h : store.Built id) (henlarges : Enlarges store later) : later.Built id := by
  induction h with
  | of form id stored _ ih =>
    refine .of form id ?_ ih
    cases form with
    | intrinsic kind => exact stored
    | joined meet members => exact ⟨stored.1, henlarges.composites _ _ stored.2⟩
    | tuple readonly elements => exact henlarges.composites _ _ stored
    | list readonly element =>
      obtain ⟨symbol, hsymbol, hid⟩ := stored
      exact ⟨symbol, henlarges.library _ _ hsymbol, henlarges.composites _ _ hid⟩

theorem built_intrinsic (store : Store) (kind : Intrinsic) : store.Built kind.id :=
  .of (.intrinsic kind) kind.id rfl fun _ hpart => absurd hpart List.not_mem_nil

theorem Labelled.mono (h : store.Labelled) (henlarges : Enlarges store later)
    (hkeeps : KeepsSymbols store later) : later.Labelled := by
  intro name symbol hsymbol
  rcases henlarges.labels name symbol hsymbol with hold | hnew
  · exact hkeeps.symbolName? (h name symbol hold)
  · exact hnew

/-! ### Composing -/

theorem built_join {members : List TypeId} (h : ∀ member ∈ members, store.Built member) (meet : Bool) :
    (store.join meet members).2.Built (store.join meet members).1 := by
  have hdistinct : ∀ member ∈ distinct members, store.Built member :=
    fun member hmember => h member (mem_distinct.mp hmember)
  rw [join_eq]
  revert hdistinct
  rcases distinct members with _ | ⟨first, _ | ⟨second, rest⟩⟩ <;> intro hdistinct
  · exact store.built_intrinsic .never
  · exact hdistinct first (List.mem_singleton_self first)
  · refine .of (.joined meet (first :: second :: rest)) _ ⟨by simp, interned?_share _ _ _⟩ ?_
    intro member hmember
    exact (hdistinct member hmember).mono (enlarges_of_grows (grows_share _ _ _) (symbols_share _ _ _).2)

/-- What is composed of types that were built is built. -/
theorem Call.Composes.built {call : Call} (h : call.Composes made)
    (hmade : ∀ id ∈ made, store.Built id) : (call.run store).2.Built (call.run store).1 := by
  have hlist : ∀ readonly {element : TypeId}, element ∈ made →
      (store.listOf readonly element).2.Built (store.listOf readonly element).1 := by
    intro readonly element helement
    obtain ⟨_, hstored⟩ := store.listOf_spec readonly element
    refine .of (.list readonly element) _ hstored (List.forall_mem_singleton.mpr ?_)
    exact (hmade element helement).mono (store.enlarges_listOf readonly element)
  cases call with
  | union members => exact built_join (fun member hmember => hmade member (h hmember)) false
  | intersection members => exact built_join (fun member hmember => hmade member (h hmember)) true
  | array element => exact hlist false h
  | readonlyArray element => exact hlist true h
  | tuple readonly elements =>
    refine .of (.tuple readonly elements) _ ((store.served_tuple readonly elements).interned _ rfl) ?_
    intro element helement
    exact (hmade element (h helement)).mono (Call.enlarges trivial)
  | _ => exact h.elim

theorem Call.Composes.keepsSymbols {call : Call} (h : call.Composes made) :
    KeepsSymbols store (call.run store).2 := by
  have hlist : ∀ readonly element, KeepsSymbols store (store.listOf readonly element).2 := by
    intro readonly element symbol info hinfo
    refine keepsSymbols_of_eq (store.symbols_listOf readonly element).1 symbol info ?_
    exact store.keepsSymbols_librarySymbol (listName readonly) symbol info hinfo
  cases call with
  | union members => exact keepsSymbols_of_eq (store.symbols_join false members).1
  | intersection members => exact keepsSymbols_of_eq (store.symbols_join true members).1
  | array element => exact hlist false element
  | readonlyArray element => exact hlist true element
  | tuple readonly elements => exact keepsSymbols_of_eq (store.symbols_tuple readonly elements).1
  | _ => exact h.elim

theorem Call.Composes.direct {call : Call} (h : call.Composes made) : call.Direct store := by
  cases call with
  | reference => exact h.elim
  | _ => trivial

/-- A store in which every composite is what was built for it, every symbol of the library has its name,
and some types are composed. -/
structure Stocked (store : Store) (made : List TypeId) : Prop where
  genuine : Genuine store []
  labelled : store.Labelled
  built : ∀ id ∈ made, store.Built id

theorem stocked_of_composed {program : Program} (h : Composed program store made) :
    Stocked store made := by
  induction h with
  | start =>
    refine ⟨genuine_new program, ?_, ?_⟩
    · intro name symbol hsymbol
      simp [new, function, register, addFile] at hsymbol
    · intro id hid
      obtain ⟨kind, _, rfl⟩ := List.mem_map.mp hid
      exact (new program).built_intrinsic kind
  | tend _ tends keeps ih =>
    have henlarges := tends.enlarges
    exact ⟨ih.genuine.step tends, ih.labelled.mono henlarges keeps,
      fun id hid => (ih.built id hid).mono henlarges⟩
  | @make store made _ call composes fair ih =>
    have henlarges : Enlarges store (call.run store).2 := Call.enlarges composes.direct
    refine ⟨ih.genuine.answer composes.direct fair, ih.labelled.mono henlarges composes.keepsSymbols, ?_⟩
    refine List.forall_mem_cons.mpr ⟨composes.built ih.built, fun id hid => ?_⟩
    exact (ih.built id hid).mono henlarges

end Store

end Immutability
