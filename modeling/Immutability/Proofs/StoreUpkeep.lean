import Immutability.Proofs.Histories
import Immutability.Proofs.PrunedStores

/-!
# Stores that are looked after

A store hands out a union, an intersection, a tuple or an array of the library again whenever it is
built again. So it has to be left as it was built, and so have the intrinsic types and the type of
library methods, which are built into arrays and tuples. All else is free: types may be redefined, may
mention handles that were not given out and may be part of themselves, and references to other symbols
are defined by whoever builds them.

What stands behind the handle of a composite then is what was built there (`genuine_of_tends`).
-/

set_option autoImplicit false

namespace Immutability.Store

def listName (readonly : Bool) : String := if readonly then "ReadonlyArray" else "Array"

def listOf (store : Store) (readonly : Bool) (element : TypeId) : TypeId × Store :=
  (store.librarySymbol (listName readonly)).2.reference (store.librarySymbol (listName readonly)).1
    [element] fun _ later =>
      (later.arrayType (store.librarySymbol (listName readonly)).1 readonly element, later)

theorem listOf_eq (store : Store) (readonly : Bool) (element : TypeId) :
    store.listOf readonly element =
      if readonly then store.readonlyArray element else store.array element := by
  cases readonly <;> rfl

theorem librarySymbols_librarySymbol (store : Store) (name : String) :
    (store.librarySymbol name).2.librarySymbols[name]? = some (store.librarySymbol name).1 := by
  cases hknown : store.librarySymbols[name]? <;> simp [librarySymbol, hknown]

/-- A symbol other than those of the arrays of the library. -/
def Foreign (store : Store) (symbol : SymbolId) : Prop :=
  ∀ readonly, store.librarySymbols[listName readonly]? ≠ some symbol

/-- If a symbol of the library is still to be declared, no reference was made in its name. -/
def Unclaimed (store : Store) (name : String) : Prop :=
  store.librarySymbols[name]? = none →
    ∀ arguments, store.interned? (.reference (store.librarySymbol name).1 arguments) = none

/-- A handle that may be redefined: not one of an intrinsic type or of the type of library methods, and
not one that is handed out again. -/
structure Free (store : Store) (id : TypeId) : Prop where
  intrinsic : ∀ kind : Intrinsic, id ≠ kind.id
  method : id ≠ store.methodType
  composite : ∀ composite, store.interned? composite = some id →
    ∃ symbol arguments, composite = .reference symbol arguments ∧ store.Foreign symbol

/-- The references to arrays of the library are made by building arrays only. -/
def Call.Fair (store : Store) : Call → Prop
  | array _ => store.Unclaimed "Array"
  | readonlyArray _ => store.Unclaimed "ReadonlyArray"
  | _ => True

/-- What can happen to a store that is looked after. -/
inductive Tends (store : Store) : Store → Prop
  | answer (call : Call) (direct : call.Direct store) (fair : call.Fair store) :
      Tends store (call.run store).2
  | allot (symbol : SymbolId) (arguments : List TypeId) (foreign : store.Foreign symbol) :
      Tends store (store.allot (.reference symbol arguments)).2.2
  | define (id : TypeId) (data : StoredType) (free : store.Free id) :
      Tends store (store.define id data)
  | list (id : TypeId) : Tends store (store.properties id).2
  | library (name : String) (unclaimed : ∀ readonly, name = listName readonly → store.Unclaimed name) :
      Tends store (store.librarySymbol name).2
  | annotate (later : Store) (annotates : Annotates store later)
      (library : later.librarySymbols = store.librarySymbols)
      (method : later.methodType = store.methodType)
      (symbols : store.symbols.size ≤ later.symbols.size) : Tends store later

/-! ### What stands behind a composite -/

/-- The union of some types is stored already. -/
def Unites (store : Store) (members : List TypeId) (id : TypeId) : Prop :=
  store.union members = (id, store)

/-- What was built for a composite. -/
def Rests (store : Store) : Composite → TypeId → Prop
  | .union members, id => store.get? id = some (.union members)
  | .intersection members, id => store.get? id = some (.intersection members)
  | .tuple readonly elements, id => ∃ union, store.Unites elements union ∧
      store.get? id = some (.object (store.tupleType readonly elements union))
  | .reference symbol arguments, id => ∀ readonly,
      store.librarySymbols[listName readonly]? = some symbol →
      ∃ element, arguments = [element] ∧
        store.get? id = some (.object (store.arrayType symbol readonly element))

variable {store later : Store} {composite : Composite} {id : TypeId} {data : StoredType}
  {unfinished more : List TypeId}

theorem unites_union (store : Store) (members : List TypeId) :
    (store.union members).2.Unites members (store.union members).1 := by
  unfold Unites union
  rcases distinct members with _ | ⟨first, _ | ⟨second, rest⟩⟩
  · rfl
  · rfl
  · exact share_of_interned (interned?_share _ _ _) _

theorem Unites.of_grows {members : List TypeId} (h : store.Unites members id)
    (hgrows : Grows store later) : later.Unites members id := by
  unfold Unites union at h ⊢
  rcases hd : distinct members with _ | ⟨first, _ | ⟨second, rest⟩⟩ <;> rw [hd] at h
  · cases h
    rfl
  · cases h
    rfl
  · have hshared := interned?_share store (.union (first :: second :: rest))
      (.union (first :: second :: rest))
    dsimp only at h ⊢
    rw [h] at hshared
    exact share_of_interned (hgrows.interned_mono _ _ hshared) _

theorem Rests.of_grows (h : store.Rests composite id) (hget : later.get? id = store.get? id)
    (hgrows : Grows store later) (hmethod : later.methodType = store.methodType)
    (hlibrary : ∀ readonly symbol arguments, composite = .reference symbol arguments →
      later.librarySymbols[listName readonly]? = some symbol →
      store.librarySymbols[listName readonly]? = some symbol) : later.Rests composite id := by
  have hmethods : ∀ readonly, later.listMethods readonly = store.listMethods readonly := by
    intro readonly
    rw [listMethods, hmethod, listMethods]
  cases composite with
  | union members => exact hget.trans h
  | intersection members => exact hget.trans h
  | tuple readonly elements =>
    obtain ⟨union, hunites, hdata⟩ := h
    refine ⟨union, hunites.of_grows hgrows, ?_⟩
    rw [hget, hdata, tupleType, tupleType, hmethods]
  | reference symbol arguments =>
    intro readonly hsymbol
    obtain ⟨element, rfl, hdata⟩ := h readonly (hlibrary readonly symbol arguments rfl hsymbol)
    refine ⟨element, rfl, ?_⟩
    rw [hget, hdata, arrayType, arrayType, hmethods]

theorem Allocated.ne_nextType (h : store.Allocated id) : store.nextType ≠ id := by
  rintro rfl
  exact Nat.lt_irrefl _ h

/-- A store in which every composite is what was built for it, but for those that are being built. -/
structure Genuine (store : Store) (unfinished : List TypeId) : Prop where
  begun : firstType.index < store.nextType.index
  stored : ∀ id, store.Allocated id → store.get? id ≠ none
  allocated : ∀ composite id, store.interned? composite = some id → store.Allocated id
  injective : ∀ composite other id, store.interned? composite = some id →
    store.interned? other = some id → composite = other
  intrinsic : ∀ kind : Intrinsic, store.get? kind.id = some (.intrinsic kind)
  method : store.methodType = firstType ∧
    store.get? firstType = some (.object { callable := true })
  declared : ∀ (name : String) (symbol : SymbolId), store.librarySymbols[name]? = some symbol →
    symbol.index ≤ store.symbols.size
  separate : ∀ (name other : String) (symbol : SymbolId), store.librarySymbols[name]? = some symbol →
    store.librarySymbols[other]? = some symbol → name = other
  rests : ∀ composite id, store.interned? composite = some id → id ∉ unfinished →
    store.Rests composite id

namespace Genuine

theorem intrinsic_allocated (h : Genuine store unfinished) (kind : Intrinsic) :
    store.Allocated kind.id := by
  have hlt : kind.id.index < firstType.index := by cases kind <;> decide
  exact Nat.lt_trans hlt h.begun

/-! ### Steps -/

protected theorem register (h : Genuine store unfinished) (data : StoredType) :
    Genuine (store.register data).2 unfinished := by
  have hkept : ∀ {id}, store.Allocated id → (store.register data).2.get? id = store.get? id := by
    intro id hid
    rw [get?_register, if_neg hid.ne_nextType]
  constructor
  case begun => exact Nat.lt_succ_of_lt h.begun
  case stored =>
    intro id hid
    rw [get?_register]
    split
    · exact Option.some_ne_none data
    · next hne =>
      have hindex : id.index ≠ store.nextType.index := fun he => hne (Handle.index_injective he.symm)
      have hlt : id.index < store.nextType.index + 1 := hid
      exact h.stored id (by unfold Allocated; omega)
  case allocated => exact fun composite id hid => Nat.lt_succ_of_lt (h.allocated composite id hid)
  case injective => exact h.injective
  case intrinsic => exact fun kind => (hkept (h.intrinsic_allocated kind)).trans (h.intrinsic kind)
  case method => exact ⟨h.method.1, (hkept h.begun).trans h.method.2⟩
  case declared => exact h.declared
  case separate => exact h.separate
  case rests =>
    intro composite id hid hopen
    exact (h.rests composite id hid hopen).of_grows (hkept (h.allocated composite id hid))
      (Grows.register store data) rfl fun _ _ _ _ hsymbol => hsymbol

/-- A new composite enters the table. Unless it is being built, its data have to be what is built for
it. -/
theorem enroll (h : Genuine store unfinished) (hnew : store.interned? composite = none)
    (hmore : ∀ id ∈ unfinished, id ∈ more)
    (hrests : store.nextType ∉ more →
      ((store.register data).2.intern composite store.nextType).Rests composite store.nextType) :
    Genuine ((store.register data).2.intern composite store.nextType) more := by
  have hregister := h.register data
  have hold : ∀ {other id}, composite ≠ other →
      ((store.register data).2.intern composite store.nextType).interned? other = some id →
      store.interned? other = some id := by
    intro other id hne hid
    rwa [interned?_intern, if_neg hne] at hid
  have hlast : ∀ {id},
      ((store.register data).2.intern composite store.nextType).interned? composite = some id →
      id = store.nextType := by
    intro id hid
    rw [interned?_intern, if_pos rfl] at hid
    exact (Option.some.inj hid).symm
  constructor
  case begun => exact hregister.begun
  case stored => exact hregister.stored
  case allocated =>
    intro other id hid
    by_cases he : composite = other
    · subst he
      rw [hlast hid]
      exact Nat.lt_succ_self _
    · exact hregister.allocated other id (hold he hid)
  case injective =>
    intro first second id hfirst hsecond
    by_cases he : composite = first
    · by_cases ho : composite = second
      · exact he.symm.trans ho
      · subst he
        exact absurd (hlast hfirst).symm (h.allocated _ _ (hold ho hsecond)).ne_nextType
    · by_cases ho : composite = second
      · subst ho
        exact absurd (hlast hsecond).symm (h.allocated _ _ (hold he hfirst)).ne_nextType
      · exact h.injective first second id (hold he hfirst) (hold ho hsecond)
  case intrinsic => exact hregister.intrinsic
  case method => exact hregister.method
  case declared => exact h.declared
  case separate => exact h.separate
  case rests =>
    intro other id hid hopen
    by_cases he : composite = other
    · subst he
      obtain rfl := hlast hid
      exact hrests hopen
    · have hbefore := hold he hid
      refine (h.rests other id hbefore fun hin => hopen (hmore id hin)).of_grows ?_
        (Grows.enroll hnew data) rfl fun _ _ _ _ hsymbol => hsymbol
      rw [get?_intern, get?_register, if_neg (h.allocated _ _ hbefore).ne_nextType]

/-- A handle is given other data. Unless it is being built from now on, the data have to be what is built
for its composite. -/
protected theorem define (h : Genuine store unfinished) (hintrinsic : ∀ kind : Intrinsic, id ≠ kind.id)
    (hmethod : id ≠ store.methodType) (hmore : ∀ other ∈ unfinished, other = id ∨ other ∈ more)
    (hrests : id ∉ more → ∀ composite, store.interned? composite = some id →
      (store.define id data).Rests composite id) : Genuine (store.define id data) more := by
  have hkept : ∀ {other}, id ≠ other → (store.define id data).get? other = store.get? other := by
    intro other hne
    rw [get?_define, if_neg hne]
  constructor
  case begun => exact h.begun
  case stored =>
    intro other hother
    by_cases he : id = other
    · rw [get?_define, if_pos he]
      exact Option.some_ne_none data
    · rw [hkept he]
      exact h.stored other hother
  case allocated => exact h.allocated
  case injective => exact h.injective
  case intrinsic => exact fun kind => (hkept (hintrinsic kind)).trans (h.intrinsic kind)
  case method =>
    have hfirst : id ≠ firstType := h.method.1 ▸ hmethod
    exact ⟨h.method.1, (hkept hfirst).trans h.method.2⟩
  case declared => exact h.declared
  case separate => exact h.separate
  case rests =>
    intro composite other hother hopen
    by_cases he : id = other
    · subst he
      exact hrests hopen composite hother
    · refine (h.rests composite other hother fun hin => ?_).of_grows (hkept he)
        (Grows.define store id data) rfl fun _ _ _ _ hsymbol => hsymbol
      rcases hmore other hin with hsame | hin
      · exact he hsame.symm
      · exact hopen hin

/-- Symbols, files, aliases and written types change. A symbol that is now known for an array of the
library was so before, or no reference was made in its name. -/
theorem annotate (h : Genuine store unfinished) (hannotates : Annotates store later)
    (hmethod : later.methodType = store.methodType)
    (hdeclared : ∀ (name : String) (symbol : SymbolId), later.librarySymbols[name]? = some symbol →
      symbol.index ≤ later.symbols.size)
    (hseparate : ∀ (name other : String) (symbol : SymbolId), later.librarySymbols[name]? = some symbol →
      later.librarySymbols[other]? = some symbol → name = other)
    (hlibrary : ∀ readonly symbol, later.librarySymbols[listName readonly]? = some symbol →
      store.librarySymbols[listName readonly]? = some symbol ∨
      ∀ arguments, store.interned? (.reference symbol arguments) = none) :
    Genuine later unfinished := by
  obtain ⟨htypes, hnext, hinterned⟩ := hannotates
  have hget : ∀ id, later.get? id = store.get? id := by
    intro id
    rw [get?, htypes, get?]
  have htable : ∀ composite, later.interned? composite = store.interned? composite := by
    intro composite
    rw [interned?, hinterned, interned?]
  have hallocated : ∀ {id}, later.Allocated id ↔ store.Allocated id := by
    intro id
    rw [Allocated, hnext, Allocated]
  constructor
  case begun => exact hnext ▸ h.begun
  case stored => exact fun id hid => hget id ▸ h.stored id (hallocated.mp hid)
  case allocated =>
    intro composite id hid
    exact hallocated.mpr (h.allocated composite id (htable composite ▸ hid))
  case injective =>
    intro composite other id hid hother
    exact h.injective composite other id (htable composite ▸ hid) (htable other ▸ hother)
  case intrinsic => exact fun kind => (hget _).trans (h.intrinsic kind)
  case method => exact ⟨hmethod.trans h.method.1, (hget _).trans h.method.2⟩
  case declared => exact hdeclared
  case separate => exact hseparate
  case rests =>
    intro composite id hid hopen
    rw [htable] at hid
    refine (h.rests composite id hid hopen).of_grows (hget id) (Grows.of_eq hnext hinterned) hmethod ?_
    rintro readonly symbol arguments rfl hsymbol
    refine (hlibrary readonly symbol hsymbol).resolve_right fun hnone => ?_
    rw [hnone] at hid
    cases hid

/-- A symbol of the library is declared when it is first asked for. -/
theorem librarySymbol (h : Genuine store unfinished) {name : String}
    (hunclaimed : ∀ readonly, name = listName readonly → store.Unclaimed name) :
    Genuine (store.librarySymbol name).2 unfinished := by
  cases hknown : store.librarySymbols[name]? with
  | some symbol =>
    simp only [Store.librarySymbol, hknown]
    exact h
  | none =>
    have hlater : ∀ other : String, (store.librarySymbol name).2.librarySymbols[other]? =
        if name = other then some ⟨store.symbols.size + 1⟩ else store.librarySymbols[other]? := by
      intro other
      simp [Store.librarySymbol, hknown, declare, Std.TreeMap.getElem?_insert]
    have hsymbol : (store.librarySymbol name).1 = ⟨store.symbols.size + 1⟩ := by
      simp [Store.librarySymbol, hknown, declare]
    have hsize : (store.librarySymbol name).2.symbols.size = store.symbols.size + 1 := by
      simp [Store.librarySymbol, hknown, declare]
    -- the new symbol comes after all others
    have hfresh : ∀ other : String, store.librarySymbols[other]? ≠ some ⟨store.symbols.size + 1⟩ :=
      fun other hother => Nat.not_succ_le_self _ (h.declared other _ hother)
    refine h.annotate (annotates_librarySymbol store name) ?_ ?_ ?_ ?_
    · simp [Store.librarySymbol, hknown, declare]
    · intro other symbol hother
      rw [hlater] at hother
      rw [hsize]
      split at hother
      · cases hother
        exact Nat.le_refl _
      · exact Nat.le_succ_of_le (h.declared other symbol hother)
    · intro first second symbol hfirst hsecond
      rw [hlater] at hfirst hsecond
      split at hfirst <;> split at hsecond
      · exact Eq.trans (Eq.symm ‹name = first›) ‹name = second›
      · cases hfirst
        exact absurd hsecond (hfresh second)
      · cases hsecond
        exact absurd hfirst (hfresh first)
      · exact h.separate first second symbol hfirst hsecond
    · intro readonly symbol hother
      rw [hlater] at hother
      split at hother
      · next hname =>
        cases hother
        exact Or.inr (hsymbol ▸ hunclaimed readonly hname hknown)
      · exact Or.inl hother

/-! ### Calls -/

theorem share (h : Genuine store unfinished)
    (hrests : ((store.register data).2.intern composite store.nextType).Rests composite
      store.nextType) : Genuine (store.share composite data).2 unfinished := by
  cases hc : store.interned? composite with
  | some id =>
    rw [share_of_interned hc]
    exact h
  | none =>
    rw [share_of_new hc]
    exact h.enroll hc (fun _ hid => hid) fun _ => hrests

theorem union (h : Genuine store unfinished) (members : List TypeId) :
    Genuine (store.union members).2 unfinished := by
  rcases store.union_cases members with ⟨he, _⟩ | ⟨he, _⟩ <;> rw [he]
  · exact h
  · exact h.share (by simp [Rests])

theorem intersection (h : Genuine store unfinished) (members : List TypeId) :
    Genuine (store.intersection members).2 unfinished := by
  rcases store.intersection_cases members with ⟨he, _⟩ | ⟨he, _⟩ <;> rw [he]
  · exact h
  · exact h.share (by simp [Rests])

theorem properties (h : Genuine store unfinished) (id : TypeId) :
    Genuine (store.properties id).2 unfinished :=
  propertiesWithin_keeps (Genuine · unfinished) (fun _ members h => h.intersection members) h

/-- A composite is allotted, the store changes in some way, and the composite is defined. -/
theorem build (h : Genuine store unfinished) (hnew : store.interned? composite = none)
    (hlater : ∀ more, Genuine (store.allot composite).2.2 more → Genuine later more)
    (hgrows : Grows (store.allot composite).2.2 later)
    (hrests : (later.define store.nextType data).Rests composite store.nextType) :
    Genuine (later.define store.nextType data) unfinished := by
  rw [allot_of_new hnew] at hlater hgrows
  have hopen : Genuine later (store.nextType :: unfinished) :=
    hlater _ (h.enroll hnew (fun _ hid => List.mem_cons_of_mem _ hid)
      fun hne => absurd List.mem_cons_self hne)
  have hinterned : later.interned? composite = some store.nextType :=
    hgrows.interned_mono _ _ (by simp)
  apply hopen.define
  · exact fun kind => (h.intrinsic_allocated kind).ne_nextType
  · have hfirst : store.Allocated firstType := h.begun
    exact hopen.method.1 ▸ hfirst.ne_nextType
  · exact fun _ hother => List.mem_cons.mp hother
  · intro _ other hother
    rw [← hopen.injective composite other _ hinterned hother]
    exact hrests

theorem tuple (h : Genuine store unfinished) (readonly : Bool) (elements : List TypeId) :
    Genuine (store.tuple readonly elements).2 unfinished := by
  cases hc : store.interned? (.tuple readonly elements) with
  | some id =>
    simp only [Store.tuple, allot_of_interned hc]
    exact h
  | none =>
    simp only [Store.tuple, allot_of_new hc]
    -- between the allotment and the definition stands the union of the elements
    refine h.build hc (fun more hmore => ?_) ?_
      ⟨_, (unites_union _ elements).of_grows (Grows.define _ _ _), ?_⟩
    · rw [allot_of_new hc] at hmore
      exact hmore.union elements
    · rw [allot_of_new hc]
      exact grows_union _ _
    · rw [get?_define, if_pos rfl]
      rfl

theorem listOf (h : Genuine store unfinished) (readonly : Bool)
    (hunclaimed : store.Unclaimed (listName readonly)) (element : TypeId) :
    Genuine (store.listOf readonly element).2 unfinished := by
  have hname : ∀ other, listName readonly = listName other → store.Unclaimed (listName readonly) :=
    fun _ _ => hunclaimed
  have hdeclared := h.librarySymbol hname
  have hsymbol := store.librarySymbols_librarySymbol (listName readonly)
  unfold Store.listOf
  revert hdeclared hsymbol
  generalize store.librarySymbol (listName readonly) = declared
  obtain ⟨symbol, store⟩ := declared
  intro h hsymbol
  cases hc : store.interned? (.reference symbol [element]) with
  | some id =>
    simp only [reference, allot_of_interned hc]
    exact h
  | none =>
    rw [reference_of_new hc]
    refine h.build hc (fun _ hmore => hmore) (Grows.refl _) fun other hother => ⟨element, rfl, ?_⟩
    have hsame : other = readonly := by
      rw [allot_of_new hc] at hother
      have hnames := h.separate (listName other) (listName readonly) symbol hother hsymbol
      revert hnames
      cases other <;> cases readonly <;> decide
    rw [get?_define, if_pos rfl, hsame]
    rfl

theorem tidy (h : Genuine store []) : store.Tidy where
  intrinsic := Nat.le_of_lt h.begun
  stored := h.stored
  allocated := h.allocated
  injective := h.injective
  tabled members id hid := h.rests (.intersection members) id hid List.not_mem_nil

protected theorem answer (h : Genuine store unfinished) {call : Call} (hdirect : call.Direct store)
    (hfair : call.Fair store) : Genuine (call.run store).2 unfinished := by
  have hdeclare : ∀ name declarations, Genuine (store.declare name declarations).2 unfinished := by
    intro name declarations
    refine h.annotate (annotates_declare store name declarations) rfl ?_ h.separate
      fun _ _ hsymbol => Or.inl hsymbol
    intro other symbol hsymbol
    rw [declare, Array.size_push]
    exact Nat.le_succ_of_le (h.declared other symbol hsymbol)
  cases call with
  | typeParameter name declarations => exact (hdeclare name declarations).register _
  | interface name declarations properties => exact (hdeclare name declarations).register _
  | union members => exact h.union members
  | intersection members => exact h.intersection members
  | array element => exact h.listOf false hfair element
  | readonlyArray element => exact h.listOf true hfair element
  | tuple readonly elements => exact h.tuple readonly elements
  | reference symbol arguments build =>
    obtain ⟨id, hid⟩ := Option.ne_none_iff_exists'.mp hdirect
    simp only [Call.run, reference, allot_of_interned hid]
    exact h
  | _ => exact h.register _

theorem step (h : Genuine store []) (hstep : Tends store later) : Genuine later [] := by
  cases hstep with
  | answer call direct fair => exact h.answer direct fair
  | allot symbol arguments foreign =>
    cases hc : store.interned? (.reference symbol arguments) with
    | some id =>
      rw [allot_of_interned hc]
      exact h
    | none =>
      rw [allot_of_new hc]
      exact h.enroll hc (fun _ hid => hid) fun _ readonly hsymbol => absurd hsymbol (foreign readonly)
  | define id data free =>
    refine h.define free.intrinsic free.method (fun _ hother => Or.inr hother) fun _ composite hid => ?_
    obtain ⟨symbol, arguments, rfl, hforeign⟩ := free.composite composite hid
    exact fun readonly hsymbol => absurd hsymbol (hforeign readonly)
  | list id => exact h.properties id
  | library name unclaimed => exact h.librarySymbol unclaimed
  | annotate later annotates library method symbols =>
    refine h.annotate annotates method ?_ (library ▸ h.separate) fun readonly symbol hsymbol => ?_
    · intro name symbol hsymbol
      exact Nat.le_trans (h.declared name symbol (library ▸ hsymbol)) symbols
    · exact Or.inl (library ▸ hsymbol)

end Genuine

theorem genuine_new (program : Program) : Genuine (new program) [] := by
  have horderly := orderly_new program
  have hnone : ∀ name : String, (new program).librarySymbols[name]? = none := by
    simp [new, function, register, addFile]
  constructor
  case begun => exact Nat.lt_succ_self _
  case stored => exact fun id hid => Option.isSome_iff_ne_none.mp ((horderly.stored id).mpr hid)
  case allocated => exact horderly.allocated
  case injective => exact horderly.injective
  case intrinsic => intro kind; cases kind <;> rfl
  case method => exact ⟨rfl, rfl⟩
  case declared =>
    intro name symbol hsymbol
    rw [hnone] at hsymbol
    cases hsymbol
  case separate =>
    intro name other symbol hsymbol
    rw [hnone] at hsymbol
    cases hsymbol
  case rests =>
    intro composite id hid
    simp [new, function, register, addFile, interned?] at hid

/-- In a store that was looked after every composite is what was built for it. -/
theorem genuine_of_tends {program : Program} (h : Relation.ReflTransGen Tends (new program) store) :
    Genuine store [] := by
  induction h with
  | refl => exact genuine_new program
  | tail _ hstep ih => exact ih.step hstep

end Immutability.Store
