import Immutability.Proofs.StableAnswers

/-!
# Stores as type graphs

A type graph reflects a store if it gives the same answers, about types that are allocated and listings
that are settled. Then it reflects all stores that this one comes from, and knows more than they do.

A chain of stores, each of which gains from the one before, has a limit: the graph that gives all the
answers that are ever given along the chain. It reflects every store of the chain.
-/

set_option autoImplicit false

namespace Immutability

open Store

/-- The graph answers as the store does about allocated types and settled listings. -/
structure TypeGraph.Reflects (graph : TypeGraph) (identity : TypeId → Identity) (store : Store) :
    Prop where
  shape : ∀ id, store.Allocated id → graph.shape id = store.shape id
  properties : ∀ id properties, store.Settled id properties → graph.properties id = properties
  callable : ∀ id, store.Allocated id → graph.callable id = store.callable id
  isReference : ∀ id, store.Allocated id → graph.isReference id = store.isReference id
  typeArguments : ∀ id, store.Allocated id → graph.typeArguments id = store.typeArguments id
  indexSignature : ∀ id kind, store.Allocated id →
    graph.indexSignature id kind = store.indexSignature id kind
  identity : graph.identity = identity
  typeName : ∀ ref : TypeRef, store.Allocated ref.id → graph.typeName ref = store.typeName ref
  declarationFiles : ∀ id, store.Allocated id →
    graph.declarationFiles id = store.declarationFiles id
  program : graph.program = store.program

variable {graph : TypeGraph} {identity : TypeId → Identity} {store later : Store} {id : TypeId}

theorem TypeGraph.Reflects.of_gains (h : graph.Reflects identity later) (hgains : Gains store later)
    (hwhole : store.Whole) : graph.Reflects identity store := by
  have hextends := Gains.extends hgains
  constructor
  · intro id hid
    rw [h.shape id (hextends.allocated hid), hextends.shape hid]
  · intro id properties hsettled
    exact h.properties id properties (hwhole.settled_of_extends hextends hsettled)
  · intro id hid
    rw [h.callable id (hextends.allocated hid), Gains.callable hgains hwhole hid]
  · intro id hid
    rw [h.isReference id (hextends.allocated hid), hextends.isReference hid]
  · intro id hid
    rw [h.typeArguments id (hextends.allocated hid), hextends.typeArguments hid]
  · intro id kind hid
    rw [h.indexSignature id kind (hextends.allocated hid), hextends.indexSignature hid]
  · exact h.identity
  · intro ref hid
    rw [h.typeName ref (hextends.allocated hid), hextends.typeName hwhole hid]
  · intro id hid
    rw [h.declarationFiles id (hextends.allocated hid), hextends.declarationFiles hid]
  · rw [h.program, hextends.program]

namespace Store

/-- Stores one after another, each of which gains from the one before. -/
structure Chain where
  stage : Nat → Store
  whole : (stage 0).Whole
  gains : ∀ number, Gains (stage number) (stage (number + 1))

namespace Chain

variable (chain : Chain) {number : Nat}

theorem gains_of_le {one two : Nat} (h : one ≤ two) : Gains (chain.stage one) (chain.stage two) := by
  induction h with
  | refl => exact .refl
  | step _ ih => exact ih.trans (chain.gains _)

theorem whole_stage (number : Nat) : (chain.stage number).Whole :=
  Gains.whole (chain.gains_of_le (Nat.zero_le number)) chain.whole

open Classical in
noncomputable def pick (good : Store → Prop) : Store :=
  if h : ∃ number, good (chain.stage number) then chain.stage h.choose else chain.stage 0

theorem exists_pick (good : Store → Prop) : ∃ number, chain.pick good = chain.stage number := by
  unfold pick
  split
  · next h => exact ⟨h.choose, rfl⟩
  · exact ⟨0, rfl⟩

theorem pick_spec (good : Store → Prop) (h : good (chain.stage number)) :
    ∃ other, chain.pick good = chain.stage other ∧ good (chain.stage other) := by
  have hex : ∃ number, good (chain.stage number) := ⟨number, h⟩
  exact ⟨hex.choose, by rw [pick, dif_pos hex], hex.choose_spec⟩

open Classical in
/-- All that the stores of a chain have to say. A listing that never settles counts as empty. -/
noncomputable def limit (identity : TypeId → Identity) : TypeGraph where
  shape id := (chain.pick (·.Allocated id)).shape id
  properties id :=
    if ∃ number properties, (chain.stage number).Settled id properties then
      ((chain.pick fun store => ∃ properties, store.Settled id properties).properties id).1
    else []
  callable id := (chain.pick (·.Allocated id)).callable id
  isReference id := (chain.pick (·.Allocated id)).isReference id
  typeArguments id := (chain.pick (·.Allocated id)).typeArguments id
  indexSignature id := (chain.pick (·.Allocated id)).indexSignature id
  identity := identity
  typeName ref := (chain.pick (·.Allocated ref.id)).typeName ref
  declarationFiles id := (chain.pick (·.Allocated id)).declarationFiles id
  program := (chain.stage 0).program

/-- An answer about an allocated type is the same all along the chain. -/
theorem answer_eq {α : Type} (answer : Store → α)
    (hkept : ∀ {store later : Store}, store.Whole → Gains store later → store.Allocated id →
      answer later = answer store)
    (hid : (chain.stage number).Allocated id) :
    answer (chain.pick (·.Allocated id)) = answer (chain.stage number) := by
  obtain ⟨other, hother, hpick⟩ := chain.pick_spec (·.Allocated id) hid
  rw [hother]
  rcases Nat.le_total number other with hle | hle
  · exact hkept (chain.whole_stage number) (chain.gains_of_le hle) hid
  · exact (hkept (chain.whole_stage other) (chain.gains_of_le hle) hpick).symm

theorem settled_stage {one two : Nat} (hle : one ≤ two) {properties : List Property}
    (h : (chain.stage one).Settled id properties) : (chain.stage two).Settled id properties :=
  (chain.whole_stage one).settled_of_extends (Gains.extends (chain.gains_of_le hle)) h

theorem properties_limit {properties : List Property} (identity : TypeId → Identity)
    (h : (chain.stage number).Settled id properties) :
    (chain.limit identity).properties id = properties := by
  have hex : ∃ number properties, (chain.stage number).Settled id properties := ⟨number, properties, h⟩
  obtain ⟨other, hother, others, hsettled⟩ :=
    chain.pick_spec (fun store => ∃ properties, store.Settled id properties) ⟨properties, h⟩
  have hlimit : (chain.limit identity).properties id = ((chain.stage other).properties id).1 := by
    simp only [limit, if_pos hex, hother]
  rw [hlimit, (chain.whole_stage other).properties_eq hsettled]
  have hone := chain.settled_stage (Nat.le_max_left number other) h
  have htwo := chain.settled_stage (Nat.le_max_right number other) hsettled
  exact (chain.whole_stage _).settled_unique htwo hone

/-- The limit of a chain reflects all of its stores. -/
theorem reflects_limit (identity : TypeId → Identity) (number : Nat) :
    (chain.limit identity).Reflects identity (chain.stage number) where
  shape id hid := chain.answer_eq (·.shape id)
    (fun _ hgains hid => (Gains.extends hgains).shape hid) hid
  properties _ _ h := chain.properties_limit identity h
  callable id hid := chain.answer_eq (·.callable id)
    (fun hwhole hgains hid => Gains.callable hgains hwhole hid) hid
  isReference id hid := chain.answer_eq (·.isReference id)
    (fun _ hgains hid => (Gains.extends hgains).isReference hid) hid
  typeArguments id hid := chain.answer_eq (·.typeArguments id)
    (fun _ hgains hid => (Gains.extends hgains).typeArguments hid) hid
  indexSignature id kind hid := chain.answer_eq (·.indexSignature id kind)
    (fun _ hgains hid => (Gains.extends hgains).indexSignature hid kind) hid
  identity := rfl
  typeName ref hid := chain.answer_eq (·.typeName ref)
    (fun hwhole hgains hid => (Gains.extends hgains).typeName hwhole hid) hid
  declarationFiles id hid := chain.answer_eq (·.declarationFiles id)
    (fun _ hgains hid => (Gains.extends hgains).declarationFiles hid) hid
  program := (Gains.extends (chain.gains_of_le (Nat.zero_le number))).program.symm

end Chain

theorem Whole.exists_reflects (hwhole : store.Whole) (identity : TypeId → Identity) :
    ∃ graph : TypeGraph, graph.Reflects identity store := by
  let chain : Chain := ⟨fun _ => store, hwhole, fun _ => .refl⟩
  exact ⟨chain.limit identity, chain.reflects_limit identity 0⟩

end Store

end Immutability
