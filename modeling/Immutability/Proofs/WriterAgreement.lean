import Immutability.Proofs.ShownTypes
import Immutability.Rendering.Names

/-!
# Writing in two states

What writes a text asks writers for the types in it and hands on their states. So if two writers answer
alike in related states, for the types that they are asked for, then so does all that is built on them.
-/

set_option autoImplicit false

namespace Immutability

variable {γ δ : Type}

/-- Two answers are the same and leave states that are related. -/
def SameAnswer {α : Type} (related : γ → δ → Prop) (answer : α × γ) (other : α × δ) : Prop :=
  answer.1 = other.1 ∧ related answer.2 other.2

/-- Two writers answer alike for some types, in related states. -/
def Writer.Agrees (related : γ → δ → Prop) (ids : List TypeId) (write : Writer γ)
    (other : Writer δ) : Prop :=
  ∀ id ∈ ids, ∀ state twin, related state twin → SameAnswer related (write id state) (other id twin)

variable {related : γ → δ → Prop} {write : Writer γ} {other : Writer δ} {state : γ} {twin : δ}

theorem writeAll_type (write : Writer γ) (before : String) (id : TypeId) (rest : List Piece)
    (state : γ) :
    Piece.writeAll write before (.type id :: rest) state =
      Piece.writeAll write (before ++ (write id state).1) rest (write id state).2 := rfl

theorem writeAll_sameAnswer {pieces : List Piece}
    (h : Writer.Agrees related (Piece.types pieces) write other) (before : String)
    (hstate : related state twin) :
    SameAnswer related (Piece.writeAll write before pieces state)
      (Piece.writeAll other before pieces twin) := by
  induction pieces generalizing before state twin with
  | nil => exact ⟨rfl, hstate⟩
  | cons piece rest ih =>
    cases piece with
    | text fixed => exact ih h _ hstate
    | type id =>
      obtain ⟨hfirst, hrest⟩ := List.forall_mem_cons.mp h
      obtain ⟨htext, hnext⟩ := hfirst state twin hstate
      rw [writeAll_type, writeAll_type, htext]
      exact ih hrest _ hnext

theorem writeArguments_sameAnswer {arguments : List TypeId}
    (h : Writer.Agrees related arguments write other) (owner : TypeId) (name : String)
    (hstate : related state twin) :
    SameAnswer related (writeArguments write owner name arguments state)
      (writeArguments other owner name arguments twin) := by
  induction arguments generalizing state twin with
  | nil => exact ⟨rfl, hstate⟩
  | cons id rest ih =>
    obtain ⟨hwrite, hrest⟩ := List.forall_mem_cons.mp h
    have hfirst : SameAnswer related (if id = owner then (name, state) else write id state)
        (if id = owner then (name, twin) else other id twin) := by
      split
      · exact ⟨rfl, hstate⟩
      · exact hwrite state twin hstate
    obtain ⟨htexts, hnext⟩ := ih hrest hfirst.2
    exact ⟨List.cons_eq_cons.mpr ⟨hfirst.1, htexts⟩, hnext⟩

theorem writeApplied?_alike {arguments : List TypeId}
    (h : Writer.Agrees related arguments write other) (owner : TypeId) (name : Option String)
    (hstate : related state twin) :
    SameAnswer related (writeApplied? write owner name arguments state)
      (writeApplied? other owner name arguments twin) := by
  unfold writeApplied?
  split
  · exact ⟨rfl, hstate⟩
  · exact ⟨rfl, hstate⟩
  · next name _ =>
    obtain ⟨htexts, hnext⟩ := writeArguments_sameAnswer h owner name hstate
    exact ⟨congrArg (fun texts => some (name ++ "<" ++ ", ".intercalate texts ++ ">")) htexts, hnext⟩

namespace Store

variable {store : Store}

theorem declaredNames_sameAnswer (h : ∀ ids, Writer.Agrees related ids write other) (id : TypeId)
    (hstate : related state twin) :
    SameAnswer related (store.declaredNames write id state) (store.declaredNames other id twin) := by
  obtain ⟨hname, hnext⟩ :=
    writeApplied?_alike (h (store.typeArguments id)) id (store.declaredName? id) hstate
  obtain ⟨halias, hlast⟩ := writeApplied?_alike (h (((store.aliasOf? id).map (·.arguments)).getD []))
    id ((store.namedAlias? id).map (·.1)) hnext
  refine ⟨?_, hlast⟩
  simp only [declaredNames]
  rw [hname, halias]

theorem describeOver_sameAnswer {writeArgument : Writer γ} {otherArgument : Writer δ}
    (h : ∀ ids, Writer.Agrees related ids write other)
    (harguments : ∀ ids, Writer.Agrees related ids writeArgument otherArgument) (ref : TypeRef)
    (hstate : related state twin) :
    SameAnswer related (store.describeOver write writeArgument ref state)
      (store.describeOver other otherArgument ref twin) := by
  obtain ⟨hnames, hnext⟩ := declaredNames_sameAnswer harguments ref.id hstate
  obtain ⟨htext, hlast⟩ := h [ref.id] ref.id List.mem_cons_self _ _ hnext
  refine ⟨?_, hlast⟩
  simp only [describeOver]
  rw [hnames, htext]

end Store

/-! ### Writers that are the same -/

theorem SameAnswer.eq {α : Type} {answer other : α × γ} (h : SameAnswer Eq answer other) : answer = other :=
  Prod.ext h.1 h.2

theorem Writer.Agrees.of_eq {ids : List TypeId} {write other : Writer γ}
    (h : ∀ id ∈ ids, write id = other id) : Writer.Agrees Eq ids write other := by
  rintro id hid state _ rfl
  rw [h id hid]
  exact ⟨rfl, rfl⟩

theorem writeAll_congr {write other : Writer γ} {pieces : List Piece}
    (h : ∀ id ∈ Piece.types pieces, write id = other id) (before : String) (state : γ) :
    Piece.writeAll write before pieces state = Piece.writeAll other before pieces state :=
  (writeAll_sameAnswer (.of_eq h) before rfl).eq

theorem writeApplied?_congr {write other : Writer γ} {arguments : List TypeId}
    (h : ∀ id ∈ arguments, write id = other id) (owner : TypeId) (name : Option String) (state : γ) :
    writeApplied? write owner name arguments state = writeApplied? other owner name arguments state :=
  (writeApplied?_alike (.of_eq h) owner name rfl).eq

end Immutability
