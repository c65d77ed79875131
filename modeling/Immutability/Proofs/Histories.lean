import Immutability.Proofs.Interning
import Immutability.Store.Host
import Mathlib.Data.List.Perm.Subperm
import Mathlib.Logic.Relation

/-!
# Histories of a store

A history is what happened to a store since it was new: the calls it has answered, and the references
whose structure is still being built. A builder is a caller like any other, so between the allotment of
a reference and the definition of its structure the history goes on with the calls of its builder, which
may ask for the very reference that is being built. Callers list properties and name types as they like.
They define a type only under a handle that they have reserved.
-/

set_option autoImplicit false

namespace Immutability.Store

/-- A call that is answered with the handle of a type. -/
inductive Call where
  | reserve
  | register (data : StoredType)
  | literal (text : String)
  | typeParameter (name : String) (declarations : List FileId)
  | union (members : List TypeId)
  | intersection (members : List TypeId)
  | conditional (type : ConditionalType)
  | object (type : ObjectType)
  | record (properties : List Property)
  | interface (name : String) (declarations : List FileId) (properties : List Property)
  | function
  | array (element : TypeId)
  | readonlyArray (element : TypeId)
  | tuple (readonly : Bool) (elements : List TypeId)
  | reference (symbol : SymbolId) (arguments : List TypeId)
      (build : TypeId → Store → ObjectType × Store)

namespace Call

def run (store : Store) : Call → TypeId × Store
  | reserve => store.reserve
  | register data => store.register data
  | literal text => store.literal text
  | typeParameter name declarations => store.typeParameter name declarations
  | union members => store.union members
  | intersection members => store.intersection members
  | conditional type => store.conditional type
  | object type => store.object type
  | record properties => store.record properties
  | interface name declarations properties => store.interface name declarations properties
  | function => store.function
  | array element => store.array element
  | readonlyArray element => store.readonlyArray element
  | tuple readonly elements => store.tuple readonly elements
  | reference symbol arguments build => store.reference symbol arguments build

/-- The composite that a call asks for. Unions and intersections are composites if they have at least
two members after later duplicates are dropped. -/
def composite? (store : Store) : Call → Option Composite
  | union members =>
    if 2 ≤ members.eraseDups.length then some (.union members.eraseDups) else none
  | intersection members =>
    if 2 ≤ members.eraseDups.length then some (.intersection members.eraseDups) else none
  | array element => some (.reference (store.librarySymbol "Array").1 [element])
  | readonlyArray element => some (.reference (store.librarySymbol "ReadonlyArray").1 [element])
  | tuple readonly elements => some (.tuple readonly elements)
  | reference symbol arguments _ => some (.reference symbol arguments)
  | _ => none

/-- The call is answered without running the builder of a caller. -/
def Direct (store : Store) : Call → Prop
  | reference symbol arguments _ => store.interned? (.reference symbol arguments) ≠ none
  | _ => True

end Call

/-- A change that concerns symbols, files, aliases and written types only. -/
structure Annotates (store later : Store) : Prop where
  types_eq : later.types = store.types
  next_eq : later.nextType = store.nextType
  interned_eq : later.interned = store.interned

structure Asked where
  call : Call
  before : Store

namespace Asked

def id (asked : Asked) : TypeId := (asked.call.run asked.before).1

def after (asked : Asked) : Store := (asked.call.run asked.before).2

def composite? (asked : Asked) : Option Composite := asked.call.composite? asked.before

def fresh (asked : Asked) : Bool :=
  asked.before.nextType.index ≤ asked.id.index && asked.id.index < asked.after.nextType.index

end Asked

/-- A store with the calls it has answered, latest first, and the references that are being built,
innermost first. -/
structure History where
  store : Store
  building : List Asked := []
  answers : List Asked := []

namespace History

def start (program : Program) : History := { store := new program }

def answer (history : History) (call : Call) : History :=
  { history with
    store := (call.run history.store).2
    answers := ⟨call, history.store⟩ :: history.answers }

/-- A reference is allotted and its builder starts. -/
def enter (history : History) (symbol : SymbolId) (arguments : List TypeId)
    (build : TypeId → Store → ObjectType × Store) : History :=
  { history with
    store := (history.store.allot (.reference symbol arguments)).2.2
    building := ⟨.reference symbol arguments build, history.store⟩ :: history.building }

def leave (history : History) (asked : Asked) (building : List Asked) : History :=
  { store := asked.after, building, answers := asked :: history.answers }

inductive Step (history : History) : History → Prop
  | answer (call : Call) (direct : call.Direct history.store) : Step history (history.answer call)
  | define (asked : Asked) (answered : asked ∈ history.answers) (reserved : asked.call = .reserve)
      (data : StoredType) :
      Step history { history with store := history.store.define asked.id data }
  | list (id : TypeId) : Step history { history with store := (history.store.properties id).2 }
  | annotate (later : Store) (annotates : Annotates history.store later) :
      Step history { history with store := later }
  | enter (symbol : SymbolId) (arguments : List TypeId)
      (build : TypeId → Store → ObjectType × Store)
      (new : history.store.interned? (.reference symbol arguments) = none) :
      Step history (history.enter symbol arguments build)
  | leave (asked : Asked) (building : List Asked) (symbol : SymbolId) (arguments : List TypeId)
      (build : TypeId → Store → ObjectType × Store)
      (innermost : history.building = asked :: building)
      (call : asked.call = .reference symbol arguments build)
      (built : history.store =
        (build asked.id (asked.before.allot (.reference symbol arguments)).2.2).2) :
      Step history (history.leave asked building)

end History

variable {store later before after : Store} {composite : Composite} {id : TypeId}
  {unfinished : List TypeId}

/-! ### What an answer does -/

/-- The effect of a call that is answered without running a builder of the caller. -/
structure Served (before : Store) (composite : Option Composite) (id : TypeId) (after : Store) :
    Prop where
  grows : Grows before after
  orderly : ∀ unfinished, Orderly before unfinished → Orderly after unfinished
  interned : ∀ c, composite = some c → after.interned? c = some id
  fresh : ∀ unfinished, Orderly before unfinished → id.index < after.nextType.index →
    id.index ≤ before.nextType.index

theorem Annotates.served (h : Annotates before store) {composite : Option Composite}
    (hserved : Served store composite id after) : Served before composite id after where
  grows := (Grows.of_eq h.next_eq h.interned_eq).trans hserved.grows
  orderly unfinished ho :=
    hserved.orderly unfinished (ho.of_eq h.types_eq h.next_eq h.interned_eq)
  interned := hserved.interned
  fresh unfinished ho hid := by
    rw [← h.next_eq]
    exact hserved.fresh unfinished (ho.of_eq h.types_eq h.next_eq h.interned_eq) hid

theorem served_register (store : Store) (data : StoredType) :
    Served store none (store.register data).1 (store.register data).2 where
  grows := Grows.register store data
  orderly _ h := h.register data
  interned _ h := by cases h
  fresh _ _ _ := Nat.le_refl _

theorem served_unchanged (h : store.interned? composite = some id) :
    Served store (some composite) id store where
  grows := Grows.refl store
  orderly _ h := h
  interned _ hc := by
    cases hc
    exact h
  fresh _ _ hid := Nat.le_of_lt hid

theorem served_share (composite : Composite) {data : StoredType}
    (hfits : composite.Fits (some data)) (store : Store) :
    Served store (some composite) (store.share composite data).1 (store.share composite data).2 where
  grows := grows_share store composite data
  orderly _ h := h.share hfits
  interned _ hc := by
    cases hc
    exact interned?_share store composite data
  fresh _ ho _ := by
    cases h : store.interned? composite with
    | some id =>
      rw [share_of_interned h]
      exact Nat.le_of_lt (ho.allocated composite id h)
    | none =>
      rewrite [share_of_new h]
      exact Nat.le_refl _

/-- A union or an intersection of fewer than two members. -/
theorem served_trivial (id : TypeId) (store : Store) : Served store none id store where
  grows := Grows.refl store
  orderly _ h := h
  interned _ h := by cases h
  fresh _ _ h := Nat.le_of_lt h

/-- A composite is allotted, the store grows in some way, and the composite is defined. -/
theorem served_define (hnew : store.interned? composite = none) {data : StoredType}
    (hfits : composite.Fits (some data))
    (hgrows : Grows (store.allot composite).2.2 later)
    (horderly : ∀ unfinished, Orderly (store.allot composite).2.2 unfinished →
      Orderly later unfinished) :
    Served store (some composite) store.nextType (later.define store.nextType data) := by
  rw [allot_of_new hnew] at hgrows horderly
  have hinterned : later.interned? composite = some store.nextType :=
    hgrows.interned_mono _ _ (by simp)
  refine ⟨?_, ?_, ?_, ?_⟩
  · exact ((Grows.enroll hnew .pending).trans hgrows).trans (Grows.define _ _ _)
  · intro unfinished h
    have hopen : Orderly later (store.nextType :: unfinished) :=
      horderly _ (h.enroll (fun _ hid => List.mem_cons_of_mem _ hid) (by simp))
    exact hopen.finish (fun _ hin => List.mem_cons.mp hin) hinterned hfits
  · intro c hc
    cases hc
    exact hinterned
  · intro _ _ _
    exact Nat.le_refl _

theorem served_union (store : Store) (members : List TypeId) :
    Served store ((Call.union members).composite? store) (store.union members).1
      (store.union members).2 := by
  simp only [Call.composite?, ← distinct_eq_eraseDups]
  rcases store.union_cases members with ⟨h, hlt⟩ | ⟨h, hle⟩
  · rw [if_neg (by omega), h]
    exact served_trivial _ store
  · rw [if_pos hle, h]
    exact served_share (.union (distinct members)) rfl store

theorem served_intersection (store : Store) (members : List TypeId) :
    Served store ((Call.intersection members).composite? store) (store.intersection members).1
      (store.intersection members).2 := by
  simp only [Call.composite?, ← distinct_eq_eraseDups]
  rcases store.intersection_cases members with ⟨h, hlt⟩ | ⟨h, hle⟩
  · rw [if_neg (by omega), h]
    exact served_trivial _ store
  · rw [if_pos hle, h]
    exact served_share (.intersection (distinct members)) rfl store

theorem served_tuple (store : Store) (readonly : Bool) (elements : List TypeId) :
    Served store (some (.tuple readonly elements)) (store.tuple readonly elements).1
      (store.tuple readonly elements).2 := by
  cases h : store.interned? (.tuple readonly elements) with
  | some id =>
    simp only [tuple, allot_of_interned h]
    exact served_unchanged h
  | none =>
    simp only [tuple, allot_of_new h]
    -- between the allotment and the definition stands the union of the elements
    refine served_define h ⟨_, rfl, rfl, rfl⟩ ?_ ?_ <;> rw [allot_of_new h]
    · exact grows_union _ _
    · exact fun _ ho => ho.union elements

theorem reference_of_new {symbol : SymbolId} {arguments : List TypeId}
    (h : store.interned? (.reference symbol arguments) = none)
    (build : TypeId → Store → ObjectType × Store) :
    store.reference symbol arguments build =
      (store.nextType,
        (build store.nextType (store.allot (.reference symbol arguments)).2.2).2.define store.nextType
          (.object (build store.nextType (store.allot (.reference symbol arguments)).2.2).1)) := by
  simp only [reference, allot_of_new h]

/-- A reference whose builder leaves the store alone, as that of an array does. -/
theorem served_reference (store : Store) (symbol : SymbolId) (arguments : List TypeId)
    (type : Store → ObjectType) :
    Served store (some (.reference symbol arguments))
      (store.reference symbol arguments fun _ store => (type store, store)).1
      (store.reference symbol arguments fun _ store => (type store, store)).2 := by
  cases h : store.interned? (.reference symbol arguments) with
  | some id =>
    simp only [reference, allot_of_interned h]
    exact served_unchanged h
  | none =>
    rw [reference_of_new h]
    exact served_define h ⟨_, rfl⟩ (Grows.refl _) fun _ ho => ho

theorem annotates_librarySymbol (store : Store) (name : String) :
    Annotates store (store.librarySymbol name).2 := by
  unfold librarySymbol
  split <;> exact ⟨rfl, rfl, rfl⟩

theorem annotates_declare (store : Store) (name : String) (declarations : List FileId) :
    Annotates store (store.declare name declarations).2 := ⟨rfl, rfl, rfl⟩

theorem Call.served {call : Call} (h : call.Direct store) :
    Served store (call.composite? store) (call.run store).1 (call.run store).2 := by
  cases call with
  | reserve => exact served_register store .pending
  | register data => exact served_register store data
  | literal text => exact served_register store (.literal text)
  | typeParameter name declarations =>
    exact (annotates_declare store name declarations).served (served_register _ _)
  | union members => exact served_union store members
  | intersection members => exact served_intersection store members
  | conditional type => exact served_register store (.conditional type)
  | object type => exact served_register store (.object type)
  | record properties => exact served_register store (.object { properties })
  | interface name declarations properties =>
    exact (annotates_declare store name declarations).served (served_register _ _)
  | function => exact served_register store _
  | array element =>
    apply (annotates_librarySymbol store "Array").served
    apply served_reference
  | readonlyArray element =>
    apply (annotates_librarySymbol store "ReadonlyArray").served
    apply served_reference
  | tuple readonly elements => exact served_tuple store readonly elements
  | reference symbol arguments build =>
    obtain ⟨id, hid⟩ := Option.ne_none_iff_exists'.mp h
    simp only [Call.run, Call.composite?, Store.reference, allot_of_interned hid]
    exact served_unchanged hid

theorem Served.id_of_fresh {asked : Asked}
    (h : Served asked.before asked.composite? asked.id asked.after)
    (horderly : Orderly asked.before unfinished) (hfresh : asked.fresh = true) :
    asked.id = asked.before.nextType := by
  rw [Asked.fresh, Bool.and_eq_true, decide_eq_true_iff, decide_eq_true_iff] at hfresh
  have hle := h.fresh unfinished horderly hfresh.2
  exact Handle.index_injective (Nat.le_antisymm hle hfresh.1)

namespace History

variable {building answers : List Asked} {asked : Asked}

/-- The handles that stand for types stored for a caller, under way or answered. -/
def handles (building answers : List Asked) : List TypeId :=
  building.map Asked.id ++ (answers.filter Asked.fresh).map Asked.id

/-- What a store knows of the calls put to it. -/
structure Recorded (store : Store) (building answers : List Asked) : Prop where
  answered : ∀ asked ∈ answers, ∀ composite, asked.composite? = some composite →
    store.interned? composite = some asked.id
  opened : ∀ asked ∈ building, ∃ symbol arguments build,
    asked.call = .reference symbol arguments build ∧
    asked.before.interned? (.reference symbol arguments) = none ∧
    store.interned? (.reference symbol arguments) = some asked.id
  reserved : ∀ asked ∈ answers, asked.call = .reserve →
    asked.id.index < store.nextType.index ∧ ∀ composite, store.interned? composite ≠ some asked.id
  numbered : ∀ asked ∈ answers, asked.fresh = true → asked.id = asked.before.nextType
  below : ∀ id ∈ handles building answers, id.index < store.nextType.index
  nodup : (handles building answers).Nodup

theorem Recorded.grow (h : Recorded store building answers) (hgrows : Grows store later) :
    Recorded later building answers where
  answered asked hasked composite hc :=
    hgrows.interned_mono _ _ (h.answered asked hasked composite hc)
  opened asked hasked := by
    obtain ⟨symbol, arguments, build, hcall, hnew, hid⟩ := h.opened asked hasked
    exact ⟨symbol, arguments, build, hcall, hnew, hgrows.interned_mono _ _ hid⟩
  reserved asked hasked hcall := by
    obtain ⟨hlt, hfree⟩ := h.reserved asked hasked hcall
    refine ⟨Nat.lt_of_lt_of_le hlt hgrows.next_le, ?_⟩
    intro composite hid
    rcases hgrows.interned_new composite asked.id hid with hold | hnew
    · exact hfree composite hold
    · omega
  numbered := h.numbered
  below id hid := Nat.lt_of_lt_of_le (h.below id hid) hgrows.next_le
  nodup := h.nodup

/-- A handle that was not given out before joins the others. -/
theorem nodup_insert {ids : List TypeId} (hnodup : ids.Nodup)
    (hbelow : ∀ id ∈ ids, id.index < store.nextType.index) : (store.nextType :: ids).Nodup := by
  refine List.nodup_cons.mpr ⟨?_, hnodup⟩
  intro hin
  exact Nat.lt_irrefl _ (hbelow _ hin)

theorem handles_answer (building answers : List Asked) (asked : Asked) :
    (handles building (asked :: answers)).Perm
      (if asked.fresh then asked.id :: handles building answers else handles building answers) := by
  unfold handles
  by_cases hfresh : asked.fresh = true
  · rw [if_pos hfresh, List.filter_cons_of_pos hfresh]
    exact List.perm_middle
  · rw [if_neg hfresh, List.filter_cons_of_neg hfresh]

/-- A call is answered by a store that is in order. -/
theorem Recorded.answer (asked : Asked) (h : Recorded asked.before building answers)
    (horderly : Orderly asked.before unfinished)
    (hserved : Served asked.before asked.composite? asked.id asked.after)
    (hreserve : asked.call = .reserve → asked.after = asked.before.reserve.2) :
    Recorded asked.after building (asked :: answers) := by
  have hold := h.grow hserved.grows
  have hid := hserved.id_of_fresh horderly
  have hperm := handles_answer building answers asked
  refine ⟨?_, hold.opened, ?_, ?_, ?_, ?_⟩
  · intro other hother composite hc
    rcases List.mem_cons.mp hother with rfl | hother
    · exact hserved.interned composite hc
    · exact hold.answered other hother composite hc
  · intro other hother hcall
    rcases List.mem_cons.mp hother with rfl | hother
    · -- the handle is the next one, and the table leads below it
      have hnext : other.id = other.before.nextType := by rw [Asked.id, hcall]; rfl
      rw [hreserve hcall, hnext]
      refine ⟨Nat.lt_succ_self _, ?_⟩
      intro composite hc
      exact horderly.ne_nextType hc rfl
    · exact hold.reserved other hother hcall
  · intro other hother hfresh
    rcases List.mem_cons.mp hother with rfl | hother
    · exact hid hfresh
    · exact h.numbered other hother hfresh
  · intro id hin
    replace hin := hperm.mem_iff.mp hin
    split at hin
    · next hfresh =>
      rcases List.mem_cons.mp hin with rfl | hin
      · rw [Asked.fresh, Bool.and_eq_true, decide_eq_true_iff, decide_eq_true_iff] at hfresh
        exact hfresh.2
      · exact hold.below id hin
    · exact hold.below id hin
  · rw [hperm.nodup_iff]
    split
    · next hfresh =>
      rw [hid hfresh]
      exact nodup_insert h.nodup h.below
    · exact h.nodup

/-- A reference is allotted. -/
theorem Recorded.enter (h : Recorded store building answers) {symbol : SymbolId}
    {arguments : List TypeId} (hnew : store.interned? (.reference symbol arguments) = none)
    (build : TypeId → Store → ObjectType × Store) :
    Recorded (store.allot (.reference symbol arguments)).2.2
      (⟨.reference symbol arguments build, store⟩ :: building) answers := by
  have hid : Asked.id ⟨.reference symbol arguments build, store⟩ = store.nextType := by
    simp only [Asked.id, Call.run, reference_of_new hnew]
  rw [allot_of_new hnew]
  have hold := h.grow (Grows.enroll hnew .pending)
  refine ⟨hold.answered, ?_, hold.reserved, h.numbered, ?_, ?_⟩
  · intro other hother
    rcases List.mem_cons.mp hother with rfl | hother
    · refine ⟨symbol, arguments, build, rfl, hnew, ?_⟩
      rw [hid, interned?_intern, if_pos rfl]
    · exact hold.opened other hother
  · intro id hin
    rcases List.mem_cons.mp hin with rfl | hin
    · rw [hid]
      exact Nat.lt_succ_self _
    · exact hold.below id hin
  · rw [handles, List.map_cons, hid]
    exact nodup_insert h.nodup h.below

/-- A reference that was being built is answered. -/
theorem Recorded.leave (h : Recorded store (asked :: building) answers) {symbol : SymbolId}
    {arguments : List TypeId} {build : TypeId → Store → ObjectType × Store}
    (hcall : asked.call = .reference symbol arguments build)
    (hnew : asked.before.interned? (.reference symbol arguments) = none)
    (hid : store.interned? (.reference symbol arguments) = some asked.id) :
    Recorded store building (asked :: answers) := by
  have hnext : asked.id = asked.before.nextType := by
    rw [Asked.id, hcall, Call.run, reference_of_new hnew]
  -- the handle moves from those under way to those answered
  have hsub : (handles building (asked :: answers)).Subperm (handles (asked :: building) answers) := by
    refine (handles_answer building answers asked).subperm.trans ?_
    split
    · exact List.Subperm.refl _
    · exact (List.sublist_cons_self _ _).subperm
  refine ⟨?_, fun other hother => h.opened other (List.mem_cons_of_mem _ hother), ?_, ?_, ?_, ?_⟩
  · intro other hother composite hc
    rcases List.mem_cons.mp hother with rfl | hother
    · rw [Asked.composite?, hcall] at hc
      cases hc
      exact hid
    · exact h.answered other hother composite hc
  · intro other hother hreserve
    rcases List.mem_cons.mp hother with rfl | hother
    · rw [hcall] at hreserve
      cases hreserve
    · exact h.reserved other hother hreserve
  · intro other hother hfresh
    rcases List.mem_cons.mp hother with rfl | hother
    · exact hnext
    · exact h.numbered other hother hfresh
  · exact fun id hin => h.below id (hsub.subset hin)
  · obtain ⟨ids, hperm, hsublist⟩ := hsub
    exact hperm.nodup_iff.mp (hsublist.nodup h.nodup)

/-- The store of a history is in order, but for some types that were given other data, and knows the calls
put to it. -/
structure Coherent (redefined : List TypeId) (history : History) : Prop where
  orderly : Orderly history.store (redefined ++ history.building.map Asked.id)
  recorded : Recorded history.store history.building history.answers

variable {redefined : List TypeId}

theorem coherent_start (program : Program) : Coherent [] (start program) where
  orderly := orderly_new program
  recorded := by constructor <;> simp [start, handles]

theorem Coherent.grow {history : History} (h : Coherent redefined history)
    (hgrows : Grows history.store later)
    (horderly : Orderly later (redefined ++ history.building.map Asked.id)) :
    Coherent redefined { history with store := later } :=
  ⟨horderly, h.recorded.grow hgrows⟩

/-- What one step keeps. -/
theorem Step.coherent {history next : History} (step : Step history next) (h : Coherent redefined history) :
    Grows history.store next.store ∧ Coherent redefined next := by
  cases step with
  | answer call direct =>
    have hserved := Call.served direct
    refine ⟨hserved.grows, hserved.orderly _ h.orderly, ?_⟩
    apply Recorded.answer ⟨call, history.store⟩ h.recorded h.orderly hserved
    rintro rfl
    rfl
  | define asked answered reserved data =>
    obtain ⟨hlt, hfree⟩ := h.recorded.reserved asked answered reserved
    have hgrows := Grows.define history.store asked.id data
    refine ⟨hgrows, h.grow hgrows (h.orderly.define hlt (fun _ hin => Or.inr hin) ?_)⟩
    intro _ composite hc
    exact absurd hc (hfree composite)
  | list id =>
    have hgrows := grows_properties history.store id
    exact ⟨hgrows, h.grow hgrows (h.orderly.properties id)⟩
  | annotate later annotates =>
    have hgrows := Grows.of_eq annotates.next_eq annotates.interned_eq
    have horderly := h.orderly.of_eq annotates.types_eq annotates.next_eq annotates.interned_eq
    exact ⟨hgrows, h.grow hgrows horderly⟩
  | enter symbol arguments build new =>
    have hid : Asked.id ⟨.reference symbol arguments build, history.store⟩ =
        history.store.nextType := by
      simp only [Asked.id, Call.run, reference_of_new new]
    refine ⟨?_, ?_, h.recorded.enter new build⟩
    · simp only [History.enter, allot_of_new new]
      exact Grows.enroll new .pending
    · simp only [History.enter, List.map_cons, hid, allot_of_new new]
      refine h.orderly.enroll (fun other hin => ?_) (by simp)
      rw [List.mem_append] at hin ⊢
      exact hin.imp_right (List.mem_cons_of_mem _)
  | leave asked building symbol arguments build innermost call built =>
    obtain ⟨horderly, hrecorded⟩ := h
    rw [innermost] at horderly hrecorded
    obtain ⟨_, _, _, hcall, hnew, hid⟩ := hrecorded.opened asked (List.mem_cons_self ..)
    rw [call] at hcall
    cases hcall
    -- the store of the answer is the present one with the structure of the reference in it
    have hafter : asked.after = history.store.define asked.id
        (.object (build asked.id (asked.before.allot (.reference symbol arguments)).2.2).1) := by
      have hnext : asked.id = asked.before.nextType := by
        rw [Asked.id, call, Call.run, reference_of_new hnew]
      rw [built, Asked.after, call, Call.run, reference_of_new hnew, hnext]
    have hgrows : Grows history.store asked.after := hafter ▸ Grows.define _ _ _
    refine ⟨hgrows, ?_, (hrecorded.leave call hnew hid).grow hgrows⟩
    simp only [History.leave, hafter]
    refine horderly.finish (fun other hin => ?_) hid ⟨_, rfl⟩
    rw [List.map_cons, List.mem_append, List.mem_cons, or_left_comm, ← List.mem_append] at hin
    exact hin

/-- What every history keeps. -/
theorem coherent_of_history {program : Program} {history : History}
    (h : Relation.ReflTransGen Step (start program) history) : Coherent [] history := by
  induction h with
  | refl => exact coherent_start program
  | tail _ step ih => exact (step.coherent ih).2

theorem mem_registeredSince {earlier later : Store} {id : TypeId} :
    id ∈ earlier.registeredSince later ↔
      earlier.nextType.index ≤ id.index ∧ id.index < later.nextType.index := by
  simp only [registeredSince, List.mem_map, List.mem_range'_1]
  constructor
  · rintro ⟨index, hindex, rfl⟩
    dsimp only
    omega
  · intro h
    exact ⟨id.index, by omega, rfl⟩

theorem Coherent.get?_ne_none_iff {history : History} (h : Coherent redefined history) (id : TypeId) :
    history.store.get? id ≠ none ↔ id.index < history.store.nextType.index := by
  rw [← h.orderly.stored id, Option.isSome_iff_ne_none]

theorem Coherent.id_eq_iff {history : History} (h : Coherent redefined history) {one two : Asked}
    (hone : one ∈ history.answers) (htwo : two ∈ history.answers) {first second : Composite}
    (hfirst : one.composite? = some first) (hsecond : two.composite? = some second) :
    one.id = two.id ↔ first = second := by
  have hleft := h.recorded.answered one hone first hfirst
  have hright := h.recorded.answered two htwo second hsecond
  constructor
  · intro hid
    rw [← hid] at hright
    exact h.orderly.injective first second one.id hleft hright
  · rintro rfl
    rw [hleft] at hright
    exact Option.some.inj hright

/-- Behind the handle of a composite stand its data, unless it is a reference that is being built. -/
theorem Coherent.fits {history : History} (h : Coherent [] history) {asked : Asked}
    (hasked : asked ∈ history.answers) {composite : Composite}
    (hc : asked.composite? = some composite) :
    composite.Fits (history.store.get? asked.id) ∨
      ∃ symbol arguments, composite = .reference symbol arguments ∧
        asked.id ∈ history.building.map Asked.id := by
  have hid := h.recorded.answered asked hasked composite hc
  by_cases hopen : asked.id ∈ history.building.map Asked.id
  · obtain ⟨under, hunder, hsame⟩ := List.mem_map.mp hopen
    obtain ⟨symbol, arguments, _, _, _, hreference⟩ := h.recorded.opened under hunder
    rw [hsame] at hreference
    exact Or.inr ⟨symbol, arguments, h.orderly.injective _ _ _ hid hreference, hopen⟩
  · exact Or.inl (h.orderly.fits composite asked.id hid hopen)

/-- Whatever was done to a store since it was new: types are kept under consecutive handles, which are
never given out twice; two composites that were asked for, of whatever kinds, have one handle if and
only if they are the same composite; and a composite is found unchanged behind its handle. -/
theorem composites_of_history (program : Program) (history : History)
    (h : Relation.ReflTransGen Step (start program) history) :
    (∀ id, history.store.get? id ≠ none ↔ id.index < history.store.nextType.index) ∧
    (∀ later, Step history later → ∀ id,
      (history.store.get? id ≠ none → later.store.get? id ≠ none) ∧
      (id ∈ history.store.registeredSince later.store ↔
        history.store.get? id = none ∧ later.store.get? id ≠ none)) ∧
    (∀ asked ∈ history.answers, asked.fresh = true → asked.id = asked.before.nextType) ∧
    ((history.answers.filter Asked.fresh).map Asked.id).Nodup ∧
    (∀ one ∈ history.answers, ∀ two ∈ history.answers, ∀ first second,
      one.composite? = some first → two.composite? = some second →
      (one.id = two.id ↔ first = second)) ∧
    (∀ asked ∈ history.answers, ∀ composite, asked.composite? = some composite →
      composite.Fits (history.store.get? asked.id) ∨
        ∃ symbol arguments, composite = .reference symbol arguments ∧
          asked.id ∈ history.building.map Asked.id) := by
  have hcoherent := coherent_of_history h
  refine ⟨hcoherent.get?_ne_none_iff, ?_, hcoherent.recorded.numbered, ?_, ?_, ?_⟩
  · intro later step id
    obtain ⟨hgrows, hlater⟩ := step.coherent hcoherent
    have hnow := hcoherent.get?_ne_none_iff id
    have hthen := hlater.get?_ne_none_iff id
    have hle := hgrows.next_le
    rw [mem_registeredSince, ← not_ne_iff, hnow, hthen]
    omega
  · exact (List.nodup_append.mp hcoherent.recorded.nodup).2.1
  · intro one hone two htwo first second hfirst hsecond
    exact hcoherent.id_eq_iff hone htwo hfirst hsecond
  · intro asked hasked composite hc
    exact hcoherent.fits hasked hc

/-- Structure of a list of numbers, whose tail is such a list or undefined. -/
def chainType (self : TypeId) (store : Store) : ObjectType × Store :=
  let (tail, store) := store.union [self, Intrinsic.undefined.id]
  ({ symbol := some ⟨1⟩
     properties := [{ name := "tail", type := tail }]
     isReference := true
     typeArguments := [Intrinsic.number.id] }, store)

/-- The first call for the list of numbers, after one for a union. -/
def chainCall : Asked :=
  { call := .reference ⟨1⟩ [Intrinsic.number.id] chainType
    before := ((start defaultProgram).answer
      (.union [Intrinsic.number.id, Intrinsic.string.id, Intrinsic.number.id])).store }

/-- The builder of the list asks for the list, which is being built, and for the type of its tail. The
tuple comes with a union that is known already. -/
def chain : History :=
  ((start defaultProgram)
    |>.answer (.union [Intrinsic.number.id, Intrinsic.string.id, Intrinsic.number.id])
    |>.enter ⟨1⟩ [Intrinsic.number.id] chainType
    |>.answer (.reference ⟨1⟩ [Intrinsic.number.id] chainType)
    |>.answer (.union [⟨15⟩, Intrinsic.undefined.id])
    |>.leave chainCall []
    |>.answer (.tuple true [Intrinsic.number.id, Intrinsic.string.id]))

theorem chain_reachable : Relation.ReflTransGen Step (start defaultProgram) chain := by
  have hnew : ((start defaultProgram).answer
      (.union [Intrinsic.number.id, Intrinsic.string.id, Intrinsic.number.id])).store.interned?
      (.reference ⟨1⟩ [Intrinsic.number.id]) = none := by
    decide +kernel
  refine .tail ?_ (.answer (.tuple true _) trivial)
  refine .tail ?_ (.leave chainCall [] ⟨1⟩ [Intrinsic.number.id] chainType rfl rfl rfl)
  refine .tail ?_ (.answer (.union _) trivial)
  refine .tail ?_ (.answer (.reference ⟨1⟩ [Intrinsic.number.id] chainType) ?_)
  · exact .tail (.single (.answer (.union _) trivial)) (.enter ⟨1⟩ _ chainType hnew)
  · -- the reference is in the table as soon as it is allotted
    simp [Call.Direct, enter, allot_of_new hnew]

theorem chain_composites :
    chain.answers.map Asked.id = [⟨17⟩, ⟨15⟩, ⟨16⟩, ⟨15⟩, ⟨14⟩] ∧
    ((chain.answers.filter Asked.fresh).map Asked.id).Nodup ∧
    (∀ one ∈ chain.answers, ∀ two ∈ chain.answers, ∀ first second,
      one.composite? = some first → two.composite? = some second →
      (one.id = two.id ↔ first = second)) := by
  obtain ⟨_, _, _, hnodup, hsame, _⟩ := composites_of_history defaultProgram chain chain_reachable
  exact ⟨by decide +kernel, hnodup, hsame⟩

end History

end Immutability.Store
