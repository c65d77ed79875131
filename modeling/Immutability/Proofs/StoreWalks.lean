import Immutability.Proofs.HostSnapshots
import Immutability.Proofs.Reflection

/-!
# Walking over a store and entering its types

Over a store, walks ask for the same children as over a graph that reflects it, and entering a type comes
to the same. All types that come up are allocated. The store gains types only when properties are listed,
so the graph has to reflect the store as it is afterwards.
-/

set_option autoImplicit false

namespace Immutability

open Store

variable {graph : TypeGraph} {identity : TypeId → Identity} {store later : Store} {rules : List Rule}
  {context : Context Store} {id : TypeId} {ref : TypeRef} {threshold : Level}

/-! ### Walks -/

abbrev Task.Sited (store : Store) : Task → Prop := Task.Among store.Allocated

theorem Task.Sited.of_extends {task : Task} (h : task.Sited store) (hextends : store.Extends later) :
    task.Sited later :=
  h.mono fun _ hid => hextends.allocated hid

theorem TypeGraph.Reflects.concurs (h : graph.Reflects identity store) (hwhole : store.Whole) :
    ((hostWith identity).snapshot store).Concurs store.Allocated graph where
  isReference := h.isReference
  typeArguments := h.typeArguments
  indexSignature := h.indexSignature
  arguments _ _ _ hargument := hwhole.allocated_of_linked (linked_of_typeArguments hargument)
  values _ _ _ _ hsignature := hwhole.allocated_of_linked (linked_of_indexSignature hsignature)

/-- A walk does the same over a store and over a graph that reflects it. -/
theorem Task.sited_resume (h : graph.Reflects identity store) (hwhole : store.Whole) {task : Task}
    (htask : task.Sited store) (answer : Option Verdict) :
    Step.Concurs store.Allocated (Sited store) (task.resume (hostWith identity) store answer)
      (task.resume graph.host () answer) := by
  rw [← Task.resume_snapshot]
  exact Task.concurs_resume (h.concurs hwhole) htask answer

/-! ### Entering a type -/

/-- What happens over a store: it gains types at most, what comes out is about allocated types, and over
a graph that reflects the store afterwards the outcome and the cache are the same. -/
structure ReflectedResult {α : Type} (identity : TypeId → Identity) (before : Store)
    (sited : Store → α → Prop) (expected : TypeGraph → α × Cache) (result : α × Context Store) : Prop where
  gains : Gains before result.2.state
  sited : sited result.2.state result.1
  reflected : ∀ graph : TypeGraph, graph.Reflects identity result.2.state →
    expected graph = (result.1, result.2.cache)

theorem linked_of_shape {other : TypeId} (h : other ∈ (store.shape id).ids) :
    Linked StoredType.parts store id other := by
  unfold Store.shape at h
  split at h
  case h_7 members hget => exact ⟨_, hget, h⟩
  case h_8 members hget => exact ⟨_, hget, h⟩
  case h_9 type hget => exact ⟨_, hget, h⟩
  all_goals cases h

theorem TypeGraph.Reflects.demand_eq (h : graph.Reflects identity store)
    (hid : store.Allocated ref.id) (rules : List Rule) (threshold : Level) :
    graph.demand rules ref threshold =
      ((hostWith identity).snapshot store).demand rules ref threshold := by
  have hshape : graph.shape ref.id = ((hostWith identity).snapshot store).shape ref.id :=
    h.shape ref.id hid
  have hsubject : graph.host.subject () ref =
      ((hostWith identity).snapshot store).host.subject () ref := by
    simp only [Host.subject, Subject.mk.injEq]
    exact ⟨h.typeName ref hid, h.declarationFiles ref.id hid, h.program⟩
  rw [TypeGraph.demand, hshape, hsubject, TypeGraph.demand]

theorem enter_reflected (identity : TypeId → Identity) (rules : List Rule) (context : Context Store)
    (ref : TypeRef) (threshold : Level) (hwhole : context.state.Whole)
    (hid : context.state.Allocated ref.id) :
    ReflectedResult identity context.state (fun store => Entered.Among store.Allocated)
      (fun graph => graph.enter rules ref threshold context.cache)
      (enter (hostWith identity) rules ref threshold context) := by
  have hlists := hwhole.lists hid
  obtain ⟨later, henter, hcache, hstate⟩ :=
    enter_snapshot rules ref threshold (identity_hostWith identity) context
  have hgains : Gains context.state later.state := by
    rw [hstate]
    by_cases hlisted :
        ((hostWith identity).snapshot context.state).EntersListing rules ref threshold context.cache
    · rw [Host.entered_of_lists hlisted]
      exact hlists.gains
    · rw [Host.entered_of_not_lists hlisted]
  rw [henter]
  refine ⟨hgains, ?_, fun graph h => ?_⟩
  · have hextends := Gains.extends hgains
    apply TypeGraph.enter_among (hextends.allocated hid)
    · exact fun other hother => hextends.allocated (hwhole.allocated_of_linked (linked_of_shape hother))
    · intro hlisted
      rw [hstate, Host.entered_of_lists hlisted]
      exact hlists.allocated
  · have hnow : graph.Reflects identity context.state := h.of_gains hgains hwhole
    rw [hcache]
    apply TypeGraph.enter_congr (hnow.shape ref.id hid) (congrFun h.identity ref.id)
      (hnow.demand_eq hid rules threshold)
    -- a listing is reflected only if it was made
    intro hlisted
    rw [hstate, Host.entered_of_lists hlisted] at h
    exact ⟨h.properties ref.id _ hlists.settled,
      h.callable ref.id ((Gains.extends hlists.gains).allocated hid)⟩

end Immutability
