import Immutability.Proofs.StoreCompletion
import Immutability.Proofs.StoreRuns

/-!
# Stores that mirror each other

Two stores may differ in types that a request never comes to. Let some types be kept, among them all that
are still to come. If the stores say the same about the kept types, if what kept types are made of is
kept, and if both know the same intersections of kept types, then a request for a kept type goes step by
step in the same way over both: each intersection that is new gets the same handle in both.

The condition of a choice is never looked at, so there the stores may differ.
-/

set_option autoImplicit false

namespace Immutability

/-- What a request can see of a stored type: all but the condition of a choice. -/
def StoredType.core : StoredType → StoredType
  | conditional type => conditional
      { type with check := Intrinsic.never.id, extended := Intrinsic.never.id }
  | data => data

namespace Store

def Known (kept : TypeId → Prop) (store : Store) (id : TypeId) : Prop := kept id ∧ store.Allocated id

structure Mirrors (kept : TypeId → Prop) (store twin : Store) : Prop where
  next : twin.nextType = store.nextType
  fresh : ∀ id, ¬ store.Allocated id → kept id
  data : ∀ id, store.Known kept id → twin.get? id = (store.get? id).map StoredType.core
  parts : ∀ parent child, store.Known kept parent → Linked StoredType.parts store parent child →
    store.Known kept child
  table : ∀ members, (∀ member ∈ members, kept member) →
    twin.interned? (.intersection members) = store.interned? (.intersection members)
  meets : ∀ members id, (∀ member ∈ members, kept member) →
    store.interned? (.intersection members) = some id → kept id
  stored : ∀ id, twin.get? id ≠ none → store.get? id ≠ none
  whole : twin.Whole

variable {kept : TypeId → Prop} {store twin later next : Store} {id : TypeId} {members : List TypeId}
  {depth other : Nat}

theorem Known.of_le (h : store.Known kept id) (hle : store.nextType.index ≤ later.nextType.index) :
    later.Known kept id := ⟨h.1, Nat.lt_of_lt_of_le h.2 hle⟩

/-- Two computations over stores that mirror each other come to the same, which is about known types, and
leave stores that mirror each other. -/
structure MirroredResult {α : Type} (kept : TypeId → Prop) (ids : α → List TypeId) (store : Store)
    (one two : α × Store) : Prop where
  same : two.1 = one.1
  known : ∀ id ∈ ids one.1, one.2.Known kept id
  mirrors : Mirrors kept one.2 two.2
  next_le : store.nextType.index ≤ one.2.nextType.index

namespace Mirrors

/-! ### Listing properties -/

theorem enroll (h : Mirrors kept store twin) (hmembers : ∀ member ∈ members, store.Known kept member)
    (hwhole : ((twin.register (.intersection members)).2.intern (.intersection members)
      twin.nextType).Whole) :
    Mirrors kept
      ((store.register (.intersection members)).2.intern (.intersection members) store.nextType)
      ((twin.register (.intersection members)).2.intern (.intersection members) twin.nextType) := by
  have hkept : kept store.nextType := h.fresh _ (Nat.lt_irrefl _)
  have hold : ∀ {id}, store.nextType ≠ id →
      ((store.register (.intersection members)).2.intern (.intersection members)
        store.nextType).Known kept id → store.Known kept id := by
    rintro id hne ⟨hid, hallocated⟩
    have hindex : id.index ≠ store.nextType.index := fun he => hne (Handle.index_injective he.symm)
    have hlt : id.index < store.nextType.index + 1 := hallocated
    exact ⟨hid, by unfold Allocated; omega⟩
  constructor
  case next =>
    change twin.nextType.next = store.nextType.next
    rw [h.next]
  case fresh =>
    intro id hid
    apply h.fresh
    exact fun hallocated => hid (Nat.lt_succ_of_lt hallocated)
  case data =>
    intro id hid
    rw [get?_intern, get?_register, get?_intern, get?_register, h.next]
    split
    · rfl
    · next hne => exact h.data id (hold hne hid)
  case parts =>
    rintro parent child hparent ⟨data, hget, hmem⟩
    have hchild : store.Known kept child := by
      rw [get?_intern, get?_register] at hget
      split at hget
      · cases hget
        exact hmembers child hmem
      · next hne => exact h.parts parent child (hold hne hparent) ⟨data, hget, hmem⟩
    exact hchild.of_le (Nat.le_succ _)
  case table =>
    intro others hothers
    rw [interned?_intern, interned?_intern, interned?_register, interned?_register, h.next]
    split
    · rfl
    · exact h.table others hothers
  case meets =>
    intro others id hothers hid
    rw [interned?_intern] at hid
    split at hid
    · cases hid
      exact hkept
    · exact h.meets others id hothers hid
  case stored =>
    intro id hid
    rw [get?_intern, get?_register, h.next] at hid
    rw [get?_intern, get?_register]
    split at hid
    · next he => rw [if_pos he]; exact Option.some_ne_none _
    · next hne => rw [if_neg hne]; exact h.stored id hid
  case whole => exact hwhole

/-- An intersection of known types goes in step. -/
theorem intersection (h : Mirrors kept store twin) (hne : members ≠ [])
    (hmembers : ∀ member ∈ members, store.Known kept member) :
    MirroredResult kept (fun id => [id]) store (store.intersection members) (twin.intersection members) := by
  have hdistinct : ∀ member ∈ distinct members, store.Known kept member :=
    fun member hmember => hmembers member (mem_distinct.mp hmember)
  have hadds : Adds twin (twin.intersection members).2 := by
    refine ⟨members, fun member hmember => ?_, rfl⟩
    have hallocated := (hmembers member hmember).2
    rwa [Allocated, ← h.next] at hallocated
  have hwhole := hadds.whole h.whole
  unfold Store.intersection at hwhole ⊢
  rcases hd : distinct members with _ | ⟨first, _ | ⟨second, rest⟩⟩
  · exact absurd hd (by rw [distinct_eq_eraseDups]; exact eraseDups_ne_nil hne)
  · rw [hd] at hdistinct
    exact ⟨rfl, hdistinct, h, Nat.le_refl _⟩
  · rw [hd] at hdistinct hwhole
    have htable := h.table _ fun member hmember => (hdistinct member hmember).1
    dsimp only at hwhole ⊢
    cases hc : store.interned? (.intersection (first :: second :: rest)) with
    | some id =>
      rw [hc] at htable
      rw [share_of_interned hc, share_of_interned htable]
      refine ⟨rfl, List.forall_mem_singleton.mpr ⟨?_, ?_⟩, h, Nat.le_refl _⟩
      · exact h.meets _ id (fun member hmember => (hdistinct member hmember).1) hc
      · obtain ⟨_, horderly⟩ := h.whole.orderly
        have hallocated := horderly.allocated _ _ htable
        rwa [h.next] at hallocated
    | none =>
      rw [hc] at htable
      rw [share_of_new htable] at hwhole ⊢
      rw [share_of_new hc]
      refine ⟨h.next, List.forall_mem_singleton.mpr ⟨?_, Nat.lt_succ_self _⟩,
        h.enroll hdistinct hwhole, Nat.le_succ _⟩
      exact h.fresh _ (Nat.lt_irrefl _)

theorem closeMerge (h : Mirrors kept store twin) {entries : List (String × MergedProperty)}
    (hentries : ∀ entry ∈ entries, entry.2.types ≠ [] ∧
      ∀ type ∈ entry.2.types, store.Known kept type) :
    MirroredResult kept (List.map (·.type)) store (store.closeMerge entries) (twin.closeMerge entries) := by
  induction entries generalizing store twin with
  | nil => exact ⟨rfl, List.forall_mem_nil _, h, Nat.le_refl _⟩
  | cons entry rest ih =>
    obtain ⟨name, merged⟩ := entry
    obtain ⟨⟨hne, htypes⟩, hrest⟩ := List.forall_mem_cons.mp hentries
    have hfirst := h.intersection hne htypes
    have hmore := ih hfirst.mirrors fun entry hentry =>
      ⟨(hrest entry hentry).1, fun type htype => ((hrest entry hentry).2 type htype).of_le hfirst.next_le⟩
    refine ⟨?_, ?_, hmore.mirrors, Nat.le_trans hfirst.next_le hmore.next_le⟩
    · simp only [Store.closeMerge, hfirst.same, hmore.same]
    · have hknown := List.forall_mem_singleton.mp hfirst.known
      exact List.forall_mem_cons.mpr ⟨hknown.of_le hmore.next_le, hmore.known⟩

/-- Members are taken in step if each is listed in step. -/
theorem foldMembers
    (hlists : ∀ {store twin : Store} {id : TypeId}, Mirrors kept store twin → store.Known kept id →
      Within twin.Member depth id → Within twin.Member other id →
      MirroredResult kept (List.map (·.type)) store (propertiesWithin depth store id)
        (propertiesWithin other twin id))
    (h : Mirrors kept store twin)
    (hmembers : ∀ member ∈ members, store.Known kept member ∧ Within twin.Member depth member ∧
      Within twin.Member other member)
    (merge : PropertyMerge) :
    ∃ properties later next,
      members.foldl (takeIn depth) (merge, store) = (merge.addAll properties, later) ∧
      members.foldl (takeIn other) (merge, twin) = (merge.addAll properties, next) ∧
      MirroredResult kept (List.map (·.type)) store (properties, later) (properties, next) := by
  induction members generalizing store twin merge with
  | nil => exact ⟨[], store, twin, rfl, rfl, rfl, List.forall_mem_nil _, h, Nat.le_refl _⟩
  | cons member rest ih =>
    obtain ⟨⟨hknown, hdepth, hother⟩, hrest⟩ := List.forall_mem_cons.mp hmembers
    have hfirst := hlists h hknown hdepth hother
    have htwin : ∀ {id}, store.Known kept id → twin.Allocated id := by
      intro id hid
      rw [Allocated, h.next]
      exact hid.2
    have hextends := Gains.extends (propertiesWithin_lists h.whole (htwin hknown) hother).gains
    have hwithin : ∀ {bound id}, store.Known kept id → Within twin.Member bound id →
        Within (propertiesWithin other twin member).2.Member bound id :=
      fun hid => h.whole.within_of_extends hextends members_subset_mentions (htwin hid)
    have hothers : ∀ id ∈ rest, (propertiesWithin depth store member).2.Known kept id ∧
        Within (propertiesWithin other twin member).2.Member depth id ∧
        Within (propertiesWithin other twin member).2.Member other id := by
      intro id hid
      obtain ⟨hid, hdepth, hother⟩ := hrest id hid
      exact ⟨hid.of_le hfirst.next_le, hwithin hid hdepth, hwithin hid hother⟩
    obtain ⟨properties, later, next, hone, htwo, hmore⟩ := ih hfirst.mirrors hothers
      (merge.addAll (propertiesWithin depth store member).1)
    refine ⟨(propertiesWithin depth store member).1 ++ properties, later, next, ?_, ?_, ?_⟩
    · rw [List.foldl_cons, takeIn, hone, PropertyMerge.addAll_append]
    · rw [List.foldl_cons, takeIn, hfirst.same, htwo, PropertyMerge.addAll_append]
    · refine ⟨rfl, ?_, hmore.mirrors, Nat.le_trans hfirst.next_le hmore.next_le⟩
      rw [List.map_append]
      intro id hid
      rcases List.mem_append.mp hid with hid | hid
      · exact (hfirst.known id hid).of_le hmore.next_le
      · exact hmore.known id hid

theorem get?_eq (h : Mirrors kept store twin) (hid : store.Known kept id) {data : StoredType}
    (hget : store.get? id = some data) : twin.get? id = some data.core := by
  rw [h.data id hid, hget, Option.map_some]

theorem exists_get? (h : Mirrors kept store twin) (hid : store.Known kept id) :
    ∃ data, store.get? id = some data := by
  apply Option.ne_none_iff_exists'.mp
  apply h.stored id
  rw [h.whole.get?_ne_none_iff, Allocated, h.next]
  exact hid.2

theorem propertiesWithin (h : Mirrors kept store twin) (hid : store.Known kept id)
    (hdepth : Within twin.Member depth id) (hother : Within twin.Member other id) :
    MirroredResult kept (List.map (·.type)) store (propertiesWithin depth store id)
      (propertiesWithin other twin id) := by
  induction depth generalizing store twin id other with
  | zero => exact hdepth.elim
  | succ depth ih =>
    obtain _ | other := other
    · exact hother.elim
    obtain ⟨data, hget⟩ := h.exists_get? hid
    have htwin := h.get?_eq hid hget
    by_cases hplain : ∃ members, data = .intersection members
    · obtain ⟨members, rfl⟩ := hplain
      have hmembers : ∀ member ∈ members, store.Known kept member ∧ Within twin.Member depth member ∧
          Within twin.Member other member :=
        fun member hmember => ⟨h.parts id member hid ⟨_, hget, hmember⟩,
          hdepth member ⟨_, htwin, hmember⟩, hother member ⟨_, htwin, hmember⟩⟩
      obtain ⟨properties, later, next, hone, htwo, hstep⟩ :=
        foldMembers (fun h hid => ih h hid) h hmembers {}
      rw [propertiesWithin_intersection hget, propertiesWithin_intersection htwin, hone, htwo]
      have hentries : ∀ entry ∈ (PropertyMerge.addAll {} properties).entries,
          entry.2.types ≠ [] ∧ ∀ type ∈ entry.2.types, later.Known kept type := by
        refine fun entry hentry => ⟨types_ne_nil hentry, fun type htype => ?_⟩
        obtain ⟨property, hproperty, rfl⟩ := mem_of_mem_entries hentry htype
        exact hstep.known _ (List.mem_map_of_mem hproperty)
      have hclosed := hstep.mirrors.closeMerge hentries
      exact ⟨hclosed.same, hclosed.known, hclosed.mirrors, Nat.le_trans hstep.next_le hclosed.next_le⟩
    · have hplain := not_exists.mp hplain
      have hcore : ∀ members, data.core ≠ .intersection members := by
        cases data <;> simp_all [StoredType.core]
      have hproperties : data.core.properties = data.properties := by cases data <;> rfl
      rw [propertiesWithin_plain hget hplain, propertiesWithin_plain htwin hcore, hproperties]
      refine ⟨rfl, fun type htype => ?_, h, Nat.le_refl _⟩
      obtain ⟨property, hproperty, rfl⟩ := List.mem_map.mp htype
      change property ∈ data.properties at hproperty
      apply h.parts id _ hid ⟨data, hget, ?_⟩
      cases data with
      | object type => exact StoredType.type_mem_mentions hproperty
      | _ => cases hproperty

theorem within (h : Mirrors kept store twin) (id : TypeId) :
    Within twin.Member (store.types.size + 1) id :=
  within_of_acyclic (fun parent _ hlink => h.stored parent hlink.ne_none) h.whole.acyclic id

theorem properties (h : Mirrors kept store twin) (hid : store.Known kept id) :
    MirroredResult kept (List.map (·.type)) store (store.properties id) (twin.properties id) :=
  h.propertiesWithin hid (h.within id) (h.whole.within id)

/-! ### What is said about a known type -/

theorem callableWithin (h : Mirrors kept store twin) (hid : store.Known kept id)
    (hdepth : Within twin.Member depth id) (hother : Within twin.Member other id) :
    twin.callableWithin other id = store.callableWithin depth id := by
  induction depth generalizing id other with
  | zero => exact hdepth.elim
  | succ depth ih =>
    obtain _ | other := other
    · exact hother.elim
    obtain ⟨data, hget⟩ := h.exists_get? hid
    have htwin := h.get?_eq hid hget
    rw [Store.callableWithin, Store.callableWithin, hget, htwin]
    cases data with
    | intersection members =>
      change members.any (twin.callableWithin other) = members.any (store.callableWithin depth)
      rw [Bool.eq_iff_iff, List.any_eq_true, List.any_eq_true]
      refine exists_congr fun member => and_congr_right fun hmember => ?_
      rw [ih (h.parts id member hid ⟨_, hget, hmember⟩) (hdepth member ⟨_, htwin, hmember⟩)
        (hother member ⟨_, htwin, hmember⟩)]
    | _ => rfl

theorem callable (h : Mirrors kept store twin) (hid : store.Known kept id) :
    twin.callable id = store.callable id :=
  h.callableWithin hid (h.within id) (h.whole.within id)

theorem shape (h : Mirrors kept store twin) (hid : store.Known kept id) :
    twin.shape id = store.shape id := by
  obtain ⟨data, hget⟩ := h.exists_get? hid
  rw [Store.shape, Store.shape, hget, h.get?_eq hid hget]
  cases data <;> rfl

theorem object? (h : Mirrors kept store twin) (hid : store.Known kept id) :
    twin.object? id = store.object? id := by
  obtain ⟨data, hget⟩ := h.exists_get? hid
  rw [Store.object?, Store.object?, hget, h.get?_eq hid hget]
  cases data <;> rfl

variable {identity : TypeId → Identity}

theorem concurs (identity : TypeId → Identity) (h : Mirrors kept store twin) :
    ((hostWith identity).snapshot store).Concurs (store.Known kept)
      ((hostWith identity).snapshot twin) where
  isReference id hid := by
    change twin.isReference id = store.isReference id
    rw [isReference, h.object? hid, isReference]
  typeArguments id hid := by
    change twin.typeArguments id = store.typeArguments id
    rw [typeArguments, h.object? hid, typeArguments]
  indexSignature id kind hid := by
    change twin.indexSignature id kind = store.indexSignature id kind
    rw [indexSignature, h.object? hid, indexSignature]
  arguments id hid argument hargument := h.parts id _ hid (linked_of_typeArguments hargument)
  values id kind signature hid hsignature := h.parts id _ hid (linked_of_indexSignature hsignature)

variable {context mirrored : Context Store} {ref : TypeRef} {threshold : Level}

/-- A known type is entered in step. -/
theorem enter (identity : TypeId → Identity) (threshold : Level)
    (h : Mirrors kept context.state mirrored.state) (hcache : mirrored.cache = context.cache)
    (href : context.state.Known kept ref.id) :
    ∃ entered later next,
      Immutability.enter (hostWith identity) [] ref threshold context = (entered, later) ∧
      Immutability.enter (hostWith identity) [] ref threshold mirrored = (entered, next) ∧
      next.cache = later.cache ∧ Mirrors kept later.state next.state ∧
      context.state.nextType.index ≤ later.state.nextType.index ∧
      entered.Among (later.state.Known kept) := by
  obtain ⟨later, henter, hlater, hstate⟩ :=
    enter_snapshot [] ref threshold (identity_hostWith identity) context
  obtain ⟨next, hother, hnext, hstep⟩ :=
    enter_snapshot [] ref threshold (identity_hostWith identity) mirrored
  have hshape : ((hostWith identity).snapshot mirrored.state).shape ref.id =
      ((hostWith identity).snapshot context.state).shape ref.id := h.shape href
  have hdemand : ((hostWith identity).snapshot mirrored.state).demand [] ref threshold =
      ((hostWith identity).snapshot context.state).demand [] ref threshold := by
    rw [TypeGraph.demand, hshape, TypeGraph.demand]
    rfl
  have hproperties := h.properties href
  have hcongr : ((hostWith identity).snapshot mirrored.state).enter [] ref threshold context.cache =
      ((hostWith identity).snapshot context.state).enter [] ref threshold context.cache := by
    apply TypeGraph.enter_congr hshape rfl hdemand
    intro _
    exact ⟨hproperties.same, hproperties.mirrors.callable (href.of_le hproperties.next_le)⟩
  have hmirrors : Mirrors kept later.state next.state ∧
      context.state.nextType.index ≤ later.state.nextType.index ∧
      (((hostWith identity).snapshot context.state).EntersListing [] ref threshold context.cache →
        later.state = (context.state.properties ref.id).2) := by
    rw [hstate, hstep, hcache]
    by_cases hlists :
        ((hostWith identity).snapshot context.state).EntersListing [] ref threshold context.cache
    · rw [Host.entered_of_lists hlists,
        Host.entered_of_lists ((TypeGraph.lists_congr hshape rfl hdemand).mpr hlists)]
      exact ⟨hproperties.mirrors, hproperties.next_le, fun _ => rfl⟩
    · rw [Host.entered_of_not_lists hlists,
        Host.entered_of_not_lists (mt (TypeGraph.lists_congr hshape rfl hdemand).mp hlists)]
      exact ⟨h, Nat.le_refl _, fun hl => absurd hl hlists⟩
  obtain ⟨hmirrors, hle, hlisted⟩ := hmirrors
  rw [hcache, hcongr] at hother hnext
  refine ⟨_, later, next, henter, hother, hnext.trans hlater.symm, hmirrors, hle, ?_⟩
  apply TypeGraph.enter_among (href.of_le hle)
  · exact fun other hother => (h.parts _ _ href (linked_of_shape hother)).of_le hle
  · intro hlists property hproperty
    rw [hlisted hlists]
    exact hproperties.known _ (List.mem_map_of_mem hproperty)

end Mirrors

end Store

/-! ### Runs -/

open Store

namespace Machine

variable {kept : TypeId → Prop} {identity : TypeId → Identity} {machine twin : Machine Store}
  {context mirrored : Context Store} {child root : TypeRef} {threshold : Level}

/-- Machines over stores that mirror each other, with the same walks over known types. -/
structure InStep (kept : TypeId → Prop) (machine twin : Machine Store) : Prop where
  mirrors : Mirrors kept machine.context.state twin.context.state
  frames : ∀ frame ∈ machine.stack, frame.task.Among (machine.context.state.Known kept)
  outline : twin.outline = machine.outline

theorem inStep_ask (identity : TypeId → Identity) (threshold : Level) {stack : List Frame}
    (h : Mirrors kept context.state mirrored.state)
    (hcache : mirrored.cache = context.cache)
    (hstack : ∀ frame ∈ stack, frame.task.Among (context.state.Known kept))
    (hchild : context.state.Known kept child.id) :
    InStep kept (ask (hostWith identity) [] child threshold { context, stack })
      (ask (hostWith identity) [] child threshold { context := mirrored, stack }) := by
  obtain ⟨entered, later, next, hone, htwo, hcaches, hmirrors, hle, hamong⟩ :=
    h.enter identity threshold hcache hchild
  have hkept : ∀ frame ∈ stack, frame.task.Among (later.state.Known kept) :=
    fun frame hframe => (hstack frame hframe).mono fun _ hid => hid.of_le hle
  unfold ask
  dsimp only
  rw [hone, htwo]
  cases entered with
  | ready status => exact ⟨hmirrors, hkept, congrArg (View.mk · _ _) hcaches⟩
  | frame begun =>
    exact ⟨hmirrors, List.forall_mem_cons.mpr ⟨hamong, hkept⟩, congrArg (View.mk · _ _) hcaches⟩

/-- A step leads to the same over both stores. -/
theorem InStep.step (h : machine.InStep kept twin) :
    (twin.step (hostWith identity) []).outlook = (machine.step (hostWith identity) []).outlook ∧
    ∀ next after, machine.step (hostWith identity) [] = .running next →
      twin.step (hostWith identity) [] = .running after → next.InStep kept after := by
  obtain ⟨hcache, hstacks, hanswer⟩ := View.mk.injEq .. ▸ h.outline
  unfold Machine.step
  rw [hstacks, hanswer]
  cases hstack : machine.stack with
  | nil =>
    refine ⟨congrArg (Outlook.ended _) hcache, ?_⟩
    intro next after hnext
    cases hnext
  | cons frame below =>
    obtain ⟨hframe, hbelow⟩ := List.forall_mem_cons.mp (hstack ▸ h.frames)
    have hresume := Task.concurs_resume (h.mirrors.concurs identity) hframe
      machine.answer
    rw [Task.resume_snapshot, Task.resume_snapshot] at hresume
    dsimp only
    rw [hresume.same]
    cases hr : frame.task.resume (hostWith identity) machine.context.state machine.answer with
    | await child task =>
      obtain ⟨hchild, htask⟩ := hresume.among child task hr
      have hkept : ∀ held ∈ { frame with task } :: below,
          held.task.Among (machine.context.state.Known kept) :=
        List.forall_mem_cons.mpr ⟨htask, hbelow⟩
      have hask := inStep_ask identity frame.threshold h.mirrors hcache hkept hchild
      refine ⟨congrArg Outlook.running hask.outline, ?_⟩
      intro next after hnext hafter
      cases hnext
      cases hafter
      exact hask
    | done verdict =>
      obtain ⟨found, ended, hfound, hstate, hfiled, hresolve⟩ :=
        resolve_spec (hostWith identity) frame below verdict machine.context
      obtain ⟨other, last, hother, hlast, hrecorded, hresolved⟩ :=
        resolve_spec (hostWith identity) frame below verdict twin.context
      cases hfound.symm.trans hother
      have hcaches : last.cache = ended.cache := by
        rw [hrecorded, hfiled, hcache]
        rfl
      dsimp only
      rw [hresolve, hresolved]
      cases below with
      | nil =>
        refine ⟨congrArg (Outlook.ended found) hcaches, ?_⟩
        intro next after hnext
        cases hnext
      | cons outer below =>
        refine ⟨congrArg (fun cache => Outlook.running ⟨cache, _, _⟩) hcaches, ?_⟩
        intro next after hnext hafter
        cases hnext
        cases hafter
        refine ⟨?_, ?_, congrArg (View.mk · _ _) hcaches⟩
        · rw [hstate, hlast]
          exact h.mirrors
        · rw [hstate]
          exact hbelow

/-- A request for a known type comes to the same over stores that mirror each other. -/
theorem outcome_of_mirrors (identity : TypeId → Identity) (context mirrored : Context Store)
    (root : TypeRef) (threshold : Level) (h : Mirrors kept context.state mirrored.state)
    (hcache : mirrored.cache = context.cache) (hroot : context.state.Known kept root.id)
    (steps : Nat) :
    (run (hostWith identity) [] steps root threshold mirrored).map Answer.outcome =
      (run (hostWith identity) [] steps root threshold context).map Answer.outcome := by
  obtain ⟨noted, hstate, hnoted, hconsult⟩ :=
    consult_cases (hostWith identity) root threshold context
  obtain ⟨marked, hother, hmarked, hmirrored⟩ :=
    consult_cases (hostWith identity) root threshold mirrored
  have hkey : mirrored.key (hostWith identity) root = context.key (hostWith identity) root := rfl
  rw [hcache, hkey] at hmirrored
  unfold run
  rcases hconsult with ⟨status, hhit, hconsult⟩ | ⟨hmiss, hconsult⟩
  · rcases hmirrored with ⟨other, hagain, hmirrored⟩ | ⟨hmiss, _⟩
    · cases hhit.symm.trans hagain
      rw [hconsult, hmirrored]
      cases status with
      | calculating => rfl
      | settled verdict =>
        have hcaches : marked.cache = noted.cache := by rw [hmarked, hnoted, hcache]
        exact congrArg (fun cache => Except.ok (_, _, cache)) hcaches
    · exact absurd hhit (hmiss status)
  · rcases hmirrored with ⟨other, hhit, _⟩ | ⟨_, hmirrored⟩
    · exact absurd hhit (hmiss other)
    · rw [← hstate, ← hother] at h
      rw [← hstate] at hroot
      obtain ⟨entered, later, next, hone, htwo, hcaches, hmirrors, _, hamong⟩ :=
        h.enter identity threshold (by rw [hmarked, hnoted, hcache]) hroot
      rw [hconsult, hmirrored]
      dsimp only
      rw [hone, htwo]
      cases entered with
      | ready status => exact congrArg (fun cache => Except.ok (_, _, cache)) hcaches
      | frame begun =>
        have hstart : InStep kept (push { context := later, stack := [] } begun)
            (push { context := next, stack := [] } begun) :=
          ⟨hmirrors, List.forall_mem_cons.mpr ⟨hamong, List.forall_mem_nil _⟩,
            congrArg (View.mk · _ _) hcaches⟩
        exact outcome_loop_of_steps (InStep kept) (fun h => h.step.1)
          (fun h hnext hafter _ => h.step.2 _ _ hnext hafter) hstart steps

end Machine

end Immutability
