import Immutability.Proofs.GuardedDescent
import Immutability.Proofs.ShownTypes

/-!
# Where a rendering is cut

A type unfolds into a tree of the types that its rendering shows, which is infinite if the type is part of
itself. A guard cuts the tree: it refuses the ninth type on a path, and a type that is on its own path
already. A sketch is what is left. As long as the guard has a step for each node of the sketch, cut nodes
included, the rendering of the type is the text of the sketch.
-/

set_option autoImplicit false

namespace Immutability

/-! ### Sketches -/

/-- The tree of the types that a rendering shows, with some nodes cut off. -/
inductive Sketch where
  | cut
  | node (id : TypeId) (parts : List Sketch)

namespace Sketch

mutual

def size : Sketch → Nat
  | cut => 1
  | node _ parts => 1 + sizes parts

def sizes : List Sketch → Nat
  | [] => 0
  | part :: rest => part.size + sizes rest

end

mutual

def whole : Sketch → Bool
  | cut => false
  | node _ parts => wholes parts

def wholes : List Sketch → Bool
  | [] => true
  | part :: rest => part.whole && wholes rest

end

/-- Takes the texts of types from a list. -/
def nextText : Writer (List String) := fun _ texts => (texts.headD "", texts.tail)

mutual

/-- The text of a sketch: the layouts of its nodes are filled in, and three dots stand where it is cut. -/
def text (store : Store) : Sketch → String
  | cut => elided
  | node id parts => (Piece.writeAll nextText "" (store.layout id) (texts store parts)).1

def texts (store : Store) : List Sketch → List String
  | [] => []
  | part :: rest => part.text store :: texts store rest

end

theorem whole_of_mem {parts : List Sketch} (h : wholes parts = true) {part : Sketch}
    (hpart : part ∈ parts) : part.whole = true := by
  induction parts with
  | nil => cases hpart
  | cons first rest ih =>
    rw [wholes, Bool.and_eq_true] at h
    rcases List.mem_cons.mp hpart with rfl | hpart
    · exact h.1
    · exact ih h.2 hpart

/-- Pieces are filled in with the texts of sketches if each type is written so. Each type takes as many
steps as its sketch has nodes. -/
theorem writeAll_sketched {γ : Type} {write : Writer γ} {store : Store} (mark : Nat → γ) {bound : Nat}
    {part : TypeId → Sketch} {pieces : List Piece}
    (h : ∀ id ∈ Piece.types pieces, ∀ steps, steps + (part id).size ≤ bound →
      write id (mark steps) = ((part id).text store, mark (steps + (part id).size)))
    (before : String) {steps : Nat}
    (hsteps : steps + sizes ((Piece.types pieces).map part) ≤ bound) :
    Piece.writeAll write before pieces (mark steps) =
      ((Piece.writeAll nextText before pieces (texts store ((Piece.types pieces).map part))).1,
        mark (steps + sizes ((Piece.types pieces).map part))) := by
  induction pieces generalizing before steps with
  | nil => rfl
  | cons piece rest ih =>
    cases piece with
    | text fixed => exact ih h _ hsteps
    | type id =>
      obtain ⟨hfirst, hrest⟩ := List.forall_mem_cons.mp h
      rw [Piece.types, List.map_cons, sizes] at hsteps ⊢
      rw [writeAll_type, hfirst steps (by omega), ih hrest _ (by omega), texts, writeAll_type,
        Nat.add_assoc]
      rfl

end Sketch

namespace Store

/-- The sketch of a type at the end of a path, with room for some more types on the path. A type is cut
off if there is no room, or if it is on the path already. -/
def sketch (store : Store) : Nat → List TypeId → TypeId → Sketch
  | 0, _, _ => .cut
  | levels + 1, path, id =>
    if path.contains id then .cut
    else .node id ((store.shown id).map (store.sketch levels (id :: path)))

variable {store : Store} {levels : Nat} {path : List TypeId} {id : TypeId}

theorem sketch_of_mem (h : id ∈ path) : store.sketch (levels + 1) path id = .cut :=
  if_pos (List.contains_iff_mem.mpr h)

theorem sketch_of_not_mem (h : id ∉ path) :
    store.sketch (levels + 1) path id =
      .node id ((store.shown id).map (store.sketch levels (id :: path))) :=
  if_neg (mt List.contains_iff_mem.mp h)

end Store

/-! ### Renderings under a guard -/

namespace Guard

def along (path : List TypeId) (unmatched steps : Nat) : Guard :=
  { opened := path, depth := path.length, steps, unmatched }

variable {path : List TypeId} {id : TypeId} {steps unmatched : Nat}

theorem admits_along (hpath : path.length ≤ Limits.typeNameDepth) :
    (along path unmatched steps).admits id = true ↔
      steps < Limits.typeNameSteps ∧ path.length < Limits.typeNameDepth ∧ id ∉ path := admits_iff hpath

theorem enter_along (h : (along path unmatched steps).admits id = true) :
    (along path unmatched steps).enter id = (true, along (id :: path) unmatched (steps + 1)) :=
  enter_of_admits h

theorem leave_along : (along (id :: path) unmatched steps).leave id = along path unmatched steps := by
  simp [leave, along]

end Guard

namespace Store

variable {room steps unmatched : Nat} {path : List TypeId} {id : TypeId}

theorem format_of_refused (store : Store) (hroom : 0 < room)
    (hrefused : (Guard.along path unmatched steps).admits id = false) :
    store.format room id (Guard.along path unmatched steps) =
      (elided, Guard.along path unmatched (steps + 1)) := by
  have henter := Guard.enter_of_refuses hrefused
  obtain ⟨room, rfl⟩ := Nat.exists_eq_add_of_lt hroom
  rw [format, formatOver, watched_of_refused _ (congrArg Prod.fst henter)]
  exact congrArg (fun entered => (elided, entered.2)) henter

theorem format_of_admitted (store : Store)
    (hadmitted : (Guard.along path unmatched steps).admits id = true) {text : String} {spent : Nat}
    (hinside : Piece.writeAll (store.format room) "" (store.layout id)
        (Guard.along (id :: path) unmatched (steps + 1)) =
      (text, Guard.along (id :: path) unmatched spent)) :
    store.format (room + 1) id (Guard.along path unmatched steps) =
      (text, Guard.along path unmatched spent) := by
  have henter : Warden.enter (Guard.along path unmatched steps) id = _ := Guard.enter_along hadmitted
  rw [format, formatOver, watched_of_admitted _ (congrArg Prod.fst henter), henter, hinside]
  exact congrArg (Prod.mk text) Guard.leave_along

/-- A guard on a path renders the sketch of a type, in as many steps as the sketch has nodes. -/
theorem format_sketch (store : Store) {levels : Nat}
    (hpath : path.length + levels = Limits.typeNameDepth) (hroom : levels < room)
    (hsteps : steps + (store.sketch levels path id).size ≤ Limits.typeNameSteps) :
    store.format room id (Guard.along path unmatched steps) =
      ((store.sketch levels path id).text store,
        Guard.along path unmatched (steps + (store.sketch levels path id).size)) := by
  induction levels generalizing room steps path id with
  | zero =>
    apply store.format_of_refused hroom
    rw [Bool.eq_false_iff, ne_eq, Guard.admits_along (by omega)]
    omega
  | succ levels ih =>
    obtain ⟨room, rfl⟩ := Nat.exists_eq_add_of_lt hroom
    by_cases hmem : id ∈ path
    · rw [sketch_of_mem hmem]
      apply store.format_of_refused (by omega)
      rw [Bool.eq_false_iff, ne_eq, Guard.admits_along (by omega)]
      exact fun hadmitted => hadmitted.2.2 hmem
    · rw [sketch_of_not_mem hmem, Sketch.size, ← types_layout, ← Nat.add_assoc] at hsteps ⊢
      rw [Sketch.text]
      apply store.format_of_admitted ((Guard.admits_along (by omega)).mpr ⟨by omega, by omega, hmem⟩)
      apply Sketch.writeAll_sketched (Guard.along (id :: path) unmatched) _ "" hsteps
      intro inner _ steps hinner
      exact ih (by rw [List.length_cons]; omega) (by omega) hinner

end Store

/-! ### Renderings without a guard -/

structure Unguarded where
deriving DecidableEq, Repr

instance : Warden Unguarded where
  enter state _ := (true, state)
  leave state _ := state

namespace Store

theorem formatFrom_unguarded (store : Store) (bottom : Writer Unguarded) {levels room : Nat}
    {path : List TypeId} {id : TypeId} (hroom : levels ≤ room)
    (hwhole : (store.sketch levels path id).whole = true) :
    store.formatFrom bottom room id ⟨⟩ = ((store.sketch levels path id).text store, ⟨⟩) := by
  induction levels generalizing room path id with
  | zero => cases hwhole
  | succ levels ih =>
    obtain ⟨room, rfl⟩ := Nat.exists_eq_add_of_le' hroom
    by_cases hmem : id ∈ path
    · rw [sketch_of_mem hmem] at hwhole
      cases hwhole
    · rw [sketch_of_not_mem hmem, ← types_layout] at hwhole ⊢
      rw [Sketch.text, ← Nat.add_assoc, formatFrom, formatOver, watched_of_admitted _ rfl]
      apply Sketch.writeAll_sketched (fun _ => Unguarded.mk) _ "" (Nat.le_refl (0 + _))
      intro inner hinner _ _
      exact ih (by omega) (Sketch.whole_of_mem hwhole (List.mem_map_of_mem hinner))

/-- A fresh guard cuts a rendering off just where the sketch of the type is cut, as long as there is a step
for each node. If nothing is cut off, it renders a type as without a guard. -/
theorem render_sketch (store : Store) (id : TypeId)
    (hsize : (store.sketch 8 [] id).size ≤ 10000) :
    (store.render id ({} : Guard)).1 = (store.sketch 8 [] id).text store ∧
    ((store.sketch 8 [] id).whole = true →
      ∀ (bottom : Writer Unguarded) (room : Nat), 8 ≤ room →
        (store.formatFrom bottom room id ⟨⟩).1 = (store.render id ({} : Guard)).1) := by
  have hrender : store.render id (Guard.along [] 0 0) = _ :=
    store.format_sketch (Nat.zero_add _) (Nat.lt_succ_self _) (by rwa [Nat.zero_add])
  have htext : (store.render id ({} : Guard)).1 = (store.sketch 8 [] id).text store :=
    congrArg Prod.fst hrender
  refine ⟨htext, fun hwhole bottom room hroom => ?_⟩
  rw [htext, store.formatFrom_unguarded bottom hroom hwhole]

/-- Nine records `⟨14⟩` to `⟨22⟩` that have the one before and themselves as properties, and a union
`⟨23⟩`. -/
def tower : Store :=
  let floors := (List.range 9).foldl (fun store floor =>
    (store.record [{ name := "down", type := ⟨floor + 13⟩ },
      { name := "same", type := ⟨floor + 14⟩ }]).2) (new defaultProgram)
  (floors.union [Intrinsic.number.id, Intrinsic.string.id]).2

/-- The rendering of `⟨22⟩` is cut off at each floor and at the ninth, that of `⟨23⟩` nowhere. -/
theorem render_tower :
    (tower.sketch 8 [] ⟨22⟩).size = 17 ∧
    (tower.render ⟨22⟩ ({} : Guard)).1 = (tower.sketch 8 [] ⟨22⟩).text tower ∧
    (tower.sketch 8 [] ⟨23⟩).size = 3 ∧
    (tower.sketch 8 [] ⟨23⟩).whole = true ∧
    ∀ (bottom : Writer Unguarded) (room : Nat), 8 ≤ room →
      (tower.formatFrom bottom room ⟨23⟩ ⟨⟩).1 = "number | string" := by
  have hcut : (tower.sketch 8 [] ⟨22⟩).size = 17 := by decide +kernel
  have hsize : (tower.sketch 8 [] ⟨23⟩).size = 3 := by decide +kernel
  have hwhole : (tower.sketch 8 [] ⟨23⟩).whole = true := by decide +kernel
  have htext : (tower.render ⟨23⟩ ({} : Guard)).1 = "number | string" := by decide +kernel
  refine ⟨hcut, (render_sketch tower ⟨22⟩ (hcut ▸ by decide)).1, hsize, hwhole, ?_⟩
  intro bottom room hroom
  rw [← htext]
  exact (render_sketch tower ⟨23⟩ (hsize ▸ by decide)).2 hwhole bottom room hroom

end Store

end Immutability
