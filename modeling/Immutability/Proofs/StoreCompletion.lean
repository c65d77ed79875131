import Immutability.Proofs.Acyclic
import Immutability.Proofs.Reflection

/-!
# Complete chains of stores

A store can be swept: the properties of all its types are listed, one type after another. Sweeping again
and again gives a chain in which every listing settles. Its limit knows every type that merging ever
calls for.

If no type of the store is part of itself, no type of the limit is below itself, even though the limit
may have more and more types: a merged property has a type that consists of lower types only.
-/

set_option autoImplicit false

namespace Immutability

open Relation (TransGen)

namespace Store

variable {store later : Store} {id : TypeId} {members : List TypeId}

def Acyclic (store : Store) : Prop := ∀ id, ¬ TransGen (Linked StoredType.parts store) id id

/-- The table of intersections leads to their members. -/
def Tabled (store : Store) : Prop :=
  ∀ members id, store.interned? (.intersection members) = some id →
    store.get? id = some (.intersection members)

theorem Adds.tabled (hadds : Adds store later) (hwhole : store.Whole) (h : store.Tabled) :
    later.Tabled := by
  intro others id hid
  rcases hadds.cases with rfl | ⟨members, _, hnew, rfl⟩
  · exact h others id hid
  · obtain ⟨_, horderly⟩ := hwhole.orderly
    rw [interned?_intern] at hid
    rw [get?_intern, get?_register]
    split at hid
    · next he =>
      cases hid
      cases he
      rw [if_pos rfl]
    · rw [if_neg (horderly.ne_nextType hid)]
      exact h others id hid

theorem Gains.tabled (hgains : Gains store later) (hwhole : store.Whole) (h : store.Tabled) :
    later.Tabled := by
  induction hgains with
  | refl => exact h
  | tail hbefore hadds ih => exact hadds.tabled (Gains.whole hbefore hwhole) ih

theorem eraseDups_ne_nil {α : Type} [BEq α] [LawfulBEq α] {list : List α} (h : list ≠ []) :
    list.eraseDups ≠ [] := by
  obtain ⟨first, hfirst⟩ := List.exists_mem_of_ne_nil list h
  exact List.ne_nil_of_mem (List.mem_eraseDups.mpr hfirst)

theorem meet?_of_long (h : 2 ≤ members.eraseDups.length) :
    store.meet? members = store.interned? (.intersection members.eraseDups) := by
  rw [meet?, distinct_eq_eraseDups]
  rcases hd : members.eraseDups with _ | ⟨first, _ | ⟨second, rest⟩⟩
  · simp [hd] at h
  · simp [hd] at h
  · rfl

/-- The intersection of some types is one of them, or has them as its members. -/
theorem Tabled.of_meet? (h : store.Tabled) (hne : members ≠ [])
    (hmeet : store.meet? members = some id) :
    members.eraseDups = [id] ∨
      2 ≤ members.eraseDups.length ∧ store.interned? (.intersection members.eraseDups) = some id ∧
        store.get? id = some (.intersection members.eraseDups) := by
  unfold meet? at hmeet
  rw [distinct_eq_eraseDups] at hmeet
  rcases hd : members.eraseDups with _ | ⟨first, _ | ⟨second, rest⟩⟩ <;> rw [hd] at hmeet
  · exact absurd hd (eraseDups_ne_nil hne)
  · cases hmeet
    exact Or.inl rfl
  · exact Or.inr ⟨by simp, hmeet, h _ _ hmeet⟩

theorem types_ne_nil {properties : List Property} {entry : String × MergedProperty}
    (h : entry ∈ (PropertyMerge.addAll {} properties).entries) : entry.2.types ≠ [] := by
  rw [PropertyMerge.entries_addAll] at h
  obtain ⟨name, hname, rfl⟩ := List.mem_map.mp h
  have hnamed := PropertyMerge.named_ne_nil (List.mem_eraseDups.mp hname)
  exact eraseDups_ne_nil fun hnil => hnamed (List.map_eq_nil_iff.mp hnil)

theorem exists_of_forall₂ {α β : Type} {related : α → β → Prop} {one : List α} {two : List β}
    (h : List.Forall₂ related one two) {b : β} (hb : b ∈ two) : ∃ a ∈ one, related a b := by
  induction h with
  | nil => cases hb
  | cons hrelated _ ih =>
    rcases List.mem_cons.mp hb with rfl | hb
    · exact ⟨_, List.mem_cons_self, hrelated⟩
    · obtain ⟨a, ha, hrelated⟩ := ih hb
      exact ⟨a, List.mem_cons_of_mem _ ha, hrelated⟩

theorem forall₂_imp_of_mem {α β : Type} {related others : α → β → Prop} {one : List α} {two : List β}
    (h : List.Forall₂ related one two) (himp : ∀ a ∈ one, ∀ b, related a b → others a b) :
    List.Forall₂ others one two := by
  induction h with
  | nil => exact .nil
  | cons hrelated _ ih =>
    obtain ⟨hfirst, hrest⟩ := List.forall_mem_cons.mp himp
    exact .cons (hfirst _ hrelated) (ih hrest)

/-- The types of properties lie lower than the type that has them. -/
theorem within_of_settled (htabled : store.Tabled) {properties : List Property} {bound : Nat}
    (h : store.Settled id properties)
    (hwithin : Within (Linked StoredType.parts store) (bound + 1) id) :
    ∀ property ∈ properties, Within (Linked StoredType.parts store) bound property.type := by
  induction h generalizing bound with
  | @plain id data hget _ =>
    intro property hproperty
    apply hwithin property.type
    refine ⟨data, hget, ?_⟩
    cases data with
    | object type => exact StoredType.type_mem_mentions hproperty
    | _ => cases hproperty
  | @merged id members lists properties hget _ hclosed ih =>
    intro property hproperty
    obtain ⟨entry, hentry, hcloses⟩ := exists_of_forall₂ hclosed hproperty
    -- the types that are merged lie two steps lower, so their intersection lies one step lower
    have hlower : ∀ type ∈ entry.2.types, ∃ less, bound = less + 1 ∧
        Within (Linked StoredType.parts store) less type := by
      intro type htype
      obtain ⟨occurrence, hoccurrence, rfl⟩ := mem_of_mem_entries hentry htype
      obtain ⟨member, hmember, hlisted⟩ := List.mem_flatMap.mp hoccurrence
      have hbelow := hwithin member ⟨_, hget, hmember⟩
      cases bound with
      | zero => exact hbelow.elim
      | succ less => exact ⟨less, rfl, ih member hmember hbelow occurrence hlisted⟩
    rcases htabled.of_meet? (types_ne_nil hentry) hcloses.type with hsingle | ⟨_, _, hdata⟩
    · obtain ⟨less, rfl, hless⟩ := hlower property.type (by
        rw [← List.mem_eraseDups, hsingle]
        exact List.mem_singleton_self _)
      exact hless.mono (Nat.le_succ less)
    · obtain ⟨first, hfirst⟩ := List.exists_mem_of_ne_nil _ (types_ne_nil hentry)
      obtain ⟨less, rfl, _⟩ := hlower first hfirst
      rintro child ⟨data, hchild, hpart⟩
      rw [hdata] at hchild
      cases hchild
      obtain ⟨_, hsame, hless⟩ := hlower child (List.mem_eraseDups.mp hpart)
      cases hsame
      exact hless

theorem Whole.allocated_of_settled (hwhole : store.Whole) {properties : List Property}
    (h : store.Settled id properties) : ∀ property ∈ properties, store.Allocated property.type := by
  have hid : store.Allocated id := by
    cases h with
    | plain hget _ => exact hwhole.allocated_of_get? hget
    | merged hget _ _ => exact hwhole.allocated_of_get? hget
  have hlists := (hwhole.lists hid).allocated
  rw [hwhole.properties_eq h] at hlists
  exact hlists

namespace Chain

variable (chain : Chain) {identity : TypeId → Identity} {number : Nat}

/-- A listing of the limit was settled at some stage, unless it is empty. -/
theorem settled_of_mem {property : Property} (h : property ∈ (chain.limit identity).properties id) :
    ∃ later, (chain.stage later).Settled id ((chain.limit identity).properties id) := by
  by_cases hex : ∃ later properties, (chain.stage later).Settled id properties
  · obtain ⟨later, properties, hsettled⟩ := hex
    rw [chain.properties_limit identity hsettled]
    exact ⟨later, hsettled⟩
  · simp only [limit, if_neg hex] at h
    cases h

/-- What a child of a type of the limit can be: a part of the type, a part of such a part, or the type of
a property in a settled listing. -/
inductive ChildBelow (chain : Chain) (number : Nat) (id child : TypeId) : Prop where
  | part : Linked StoredType.parts (chain.stage number) id child → ChildBelow chain number id child
  | inner {member : TypeId} : Linked StoredType.parts (chain.stage number) id member →
      Linked StoredType.parts (chain.stage number) member child → ChildBelow chain number id child
  | listed {later : Nat} {properties : List Property} {property : Property} :
      (chain.stage later).Settled id properties → property ∈ properties → property.type = child →
      ChildBelow chain number id child

theorem below_of_surface (hid : (chain.stage number).Allocated id) {sources : List TypeId}
    (hsources : ∀ source ∈ sources, source = id ∨
      Linked StoredType.parts (chain.stage number) id source) {child : TypeId}
    (h : child ∈ (chain.limit identity).surfaceChildren id sources) :
    chain.ChildBelow number id child := by
  have hreflects := chain.reflects_limit identity number
  have hindex : ∀ kind, child ∈ (chain.limit identity).indexValues kind sources →
      chain.ChildBelow number id child := by
    intro kind hvalue
    obtain ⟨source, hsource, hfound⟩ := List.mem_filterMap.mp hvalue
    have hallocated : (chain.stage number).Allocated source := by
      rcases hsources source hsource with rfl | hlink
      · exact hid
      · exact (chain.whole_stage number).allocated_of_linked hlink
    obtain ⟨signature, hsignature, hchild⟩ := Option.bind_eq_some_iff.mp hfound
    rw [hreflects.indexSignature source kind hallocated] at hsignature
    have hlink := linked_of_indexSignature hsignature
    have hvalue : signature.value = child := by
      split at hchild
      · cases hchild
      · split at hchild
        · cases hchild
        · exact Option.some.inj hchild
    rw [hvalue] at hlink
    rcases hsources source hsource with rfl | houter
    · exact .part hlink
    · exact .inner houter hlink
  simp only [TypeGraph.surfaceChildren, List.mem_append, List.mem_map] at h
  rcases h with ⟨property, hproperty, rfl⟩ | hargument | hvalue | hvalue
  · obtain ⟨later, hsettled⟩ := chain.settled_of_mem hproperty
    exact .listed hsettled hproperty rfl
  · rw [hreflects.typeArguments id hid] at hargument
    exact .part (linked_of_typeArguments hargument)
  · exact hindex .string hvalue
  · exact hindex .number hvalue

theorem below_of_child (hid : (chain.stage number).Allocated id) {child : TypeRef}
    (h : child ∈ (chain.limit identity).children id) : chain.ChildBelow number id child.id := by
  obtain ⟨data, hget⟩ := (chain.whole_stage number).exists_get? hid
  have hshape := (chain.reflects_limit identity number).shape id hid
  unfold TypeGraph.children at h
  rw [hshape, Store.shape, hget] at h
  cases data with
  | union members => exact .part ⟨_, hget, (mem_bare.mp h).2⟩
  | intersection members =>
    apply chain.below_of_surface hid _ (mem_bare.mp h).2
    exact fun source hsource => Or.inr ⟨_, hget, hsource⟩
  | conditional type =>
    refine .part ⟨_, hget, ?_⟩
    rcases List.mem_pair.mp h with rfl | rfl
    · exact List.mem_cons_self
    · exact List.mem_cons_of_mem _ List.mem_cons_self
  | object type =>
    apply chain.below_of_surface hid _ (mem_bare.mp h).2
    exact fun source hsource => Or.inl (List.mem_singleton.mp hsource)
  | _ => cases h

/-- No type of the limit is below itself. -/
theorem acc_limit (identity : TypeId → Identity) (htabled : (chain.stage 0).Tabled)
    (hacyclic : (chain.stage 0).Acyclic) (hid : (chain.stage number).Allocated id) (node : Option NodeId) :
    Acc (chain.limit identity).Child ⟨id, node⟩ := by
  have hgains := fun number => chain.gains_of_le (Nat.zero_le number)
  have hbound : ∀ bound number id node, (chain.stage number).Allocated id →
      Within (Linked StoredType.parts (chain.stage number)) bound id →
      Acc (chain.limit identity).Child ⟨id, node⟩ := by
    intro bound
    induction bound with
    | zero => exact fun _ _ _ _ h => h.elim
    | succ bound ih =>
      intro number id node hid hwithin
      have hwhole := chain.whole_stage number
      refine .intro _ ?_
      rintro ⟨child, place⟩ hchild
      cases chain.below_of_child hid hchild with
      | part hlink =>
        exact ih number child place (hwhole.allocated_of_linked hlink) (hwithin child hlink)
      | @inner member hmember hlink =>
        have hlower := hwithin member hmember
        cases bound with
        | zero => exact hlower.elim
        | succ less =>
          have hless : Within _ less child := hlower child hlink
          exact ih number child place (hwhole.allocated_of_linked hlink) (hless.mono (Nat.le_succ less))
      | @listed later properties property hsettled hproperty htype =>
        -- a stage that has seen both the type and its listing
        subst htype
        have hle := Nat.le_max_left number later
        have hthen := chain.settled_stage (Nat.le_max_right number later) hsettled
        have hextends := Gains.extends (chain.gains_of_le hle)
        have hmore := hwhole.within_of_extends hextends parts_subset_mentions hid hwithin
        have htabledThen := Gains.tabled (hgains (max number later)) chain.whole htabled
        exact ih (max number later) property.type place
          ((chain.whole_stage _).allocated_of_settled hthen property hproperty)
          (within_of_settled htabledThen hthen hmore property hproperty)
  have hnever := Gains.acyclic (hgains number) chain.whole parts_subset_mentions hacyclic
  exact hbound _ number id node hid (within_of_acyclic (fun _ _ => Linked.ne_none) hnever id)

end Chain

/-! ### Sweeping -/

def listAll (store : Store) (ids : List TypeId) : Store :=
  ids.foldl (fun store id => (store.properties id).2) store

theorem Whole.gains_listAll (hwhole : store.Whole) (ids : List TypeId) :
    Gains store (store.listAll ids) := by
  induction ids generalizing store with
  | nil => exact .refl
  | cons first rest ih =>
    have hfirst := hwhole.gains_properties first
    exact hfirst.trans (ih (Gains.whole hfirst hwhole))

theorem Whole.settled_listAll (hwhole : store.Whole) {ids : List TypeId} (hmem : id ∈ ids)
    (hid : store.Allocated id) : ∃ properties, (store.listAll ids).Settled id properties := by
  induction ids generalizing store with
  | nil => cases hmem
  | cons first rest ih =>
    have hfirst := hwhole.gains_properties first
    have hnext := Gains.whole hfirst hwhole
    rcases List.mem_cons.mp hmem with rfl | hmem
    · have hrest := Gains.extends (hnext.gains_listAll rest)
      exact ⟨_, hnext.settled_of_extends hrest (hwhole.lists hid).settled⟩
    · exact ih hnext hmem ((Gains.extends hfirst).allocated hid)

def sweep (store : Store) : Store :=
  store.listAll ((List.range store.nextType.index).map Handle.mk)

theorem Whole.settled_sweep (hwhole : store.Whole) (hid : store.Allocated id) :
    ∃ properties, store.sweep.Settled id properties := by
  apply hwhole.settled_listAll _ hid
  exact List.mem_map.mpr ⟨id.index, List.mem_range.mpr hid, rfl⟩

/-- Sweeping may add types, so it goes on and on. -/
def completion (store : Store) (hwhole : store.Whole) : Chain where
  stage number := sweep^[number] store
  whole := hwhole
  gains number := by
    have hnow : (sweep^[number] store).Whole := by
      induction number with
      | zero => exact hwhole
      | succ number ih =>
        rw [Function.iterate_succ_apply']
        exact Gains.whole (ih.gains_listAll _) ih
    rw [Function.iterate_succ_apply']
    exact hnow.gains_listAll _

namespace Chain

/-- A chain in which every listing settles. -/
structure Complete (chain : Chain) : Prop where
  tabled : (chain.stage 0).Tabled
  acyclic : (chain.stage 0).Acyclic
  settles : ∀ number id, (chain.stage number).Allocated id →
    ∃ later properties, (chain.stage later).Settled id properties

end Chain

theorem complete_completion (hwhole : store.Whole) (htabled : store.Tabled)
    (hacyclic : store.Acyclic) : (store.completion hwhole).Complete where
  tabled := htabled
  acyclic := hacyclic
  settles number id hid := by
    refine ⟨number + 1, ?_⟩
    have hstage : (store.completion hwhole).stage (number + 1) =
        ((store.completion hwhole).stage number).sweep := Function.iterate_succ_apply' _ _ _
    rw [hstage]
    exact ((store.completion hwhole).whole_stage number).settled_sweep hid

/-! ### What a complete chain knows -/

namespace Chain

variable {chain : Chain} {identity : TypeId → Identity} {data : StoredType}

/-- These are the data of a type, from some stage on. -/
def Holds (chain : Chain) (id : TypeId) (data : StoredType) : Prop :=
  ∃ number, (chain.stage number).get? id = some data

/-- This is the intersection of some types, from some stage on. -/
def Meets (chain : Chain) (members : List TypeId) (id : TypeId) : Prop :=
  ∃ number, (chain.stage number).meet? members = some id

theorem get?_stage {one two : Nat} (hle : one ≤ two)
    (h : (chain.stage one).get? id = some data) : (chain.stage two).get? id = some data := by
  have hid := (chain.whole_stage one).allocated_of_get? h
  rw [(Gains.extends (chain.gains_of_le hle)).kept id hid, h]

theorem Holds.unique {other : StoredType} (h : chain.Holds id data) (g : chain.Holds id other) :
    data = other := by
  obtain ⟨one, hone⟩ := h
  obtain ⟨two, htwo⟩ := g
  have hdata := get?_stage (Nat.le_max_left one two) hone
  rw [get?_stage (Nat.le_max_right one two) htwo] at hdata
  exact (Option.some.inj hdata).symm

theorem Meets.unique {other : TypeId} (h : chain.Meets members id) (g : chain.Meets members other) :
    id = other := by
  obtain ⟨one, hone⟩ := h
  obtain ⟨two, htwo⟩ := g
  have hid := (Gains.extends (chain.gains_of_le (Nat.le_max_left one two))).meet? hone
  rw [(Gains.extends (chain.gains_of_le (Nat.le_max_right one two))).meet? htwo] at hid
  exact (Option.some.inj hid).symm

/-- Only the distinct members of an intersection matter. -/
theorem Meets.congr {others : List TypeId} (hsame : members.eraseDups = others.eraseDups)
    (h : chain.Meets members id) : chain.Meets others id := by
  obtain ⟨number, hmeet⟩ := h
  refine ⟨number, ?_⟩
  rw [meet?, distinct_eq_eraseDups] at hmeet ⊢
  rw [← hsame]
  exact hmeet

theorem Holds.shape_intersection (h : chain.Holds id (.intersection members)) :
    (chain.limit identity).shape id = .intersection members := by
  obtain ⟨number, hget⟩ := h
  have hid := (chain.whole_stage number).allocated_of_get? hget
  rw [(chain.reflects_limit identity number).shape id hid, Store.shape, hget]

theorem Holds.isReference_intersection (h : chain.Holds id (.intersection members)) :
    (chain.limit identity).isReference id = false := by
  obtain ⟨number, hget⟩ := h
  have hid := (chain.whole_stage number).allocated_of_get? hget
  rw [(chain.reflects_limit identity number).isReference id hid, Store.isReference, object?, hget]
  rfl

/-- An intersection has no index signatures of its own. -/
theorem Holds.indexSignature_intersection (h : chain.Holds id (.intersection members))
    (kind : IndexKind) : (chain.limit identity).indexSignature id kind = none := by
  obtain ⟨number, hget⟩ := h
  have hid := (chain.whole_stage number).allocated_of_get? hget
  rw [(chain.reflects_limit identity number).indexSignature id kind hid, Store.indexSignature,
    object?, hget]
  rfl

theorem Complete.tabled_stage (h : chain.Complete) (number : Nat) : (chain.stage number).Tabled :=
  Gains.tabled (chain.gains_of_le (Nat.zero_le number)) chain.whole h.tabled

theorem Complete.meets_cases (h : chain.Complete) (hne : members ≠ [])
    (hmeets : chain.Meets members id) :
    members.eraseDups = [id] ∨
      2 ≤ members.eraseDups.length ∧ chain.Holds id (.intersection members.eraseDups) := by
  obtain ⟨number, hmeet⟩ := hmeets
  rcases (h.tabled_stage number).of_meet? hne hmeet with hsingle | ⟨hlength, _, hget⟩
  · exact Or.inl hsingle
  · exact Or.inr ⟨hlength, number, hget⟩

theorem Complete.acc (h : chain.Complete) (identity : TypeId → Identity) {number : Nat}
    (hid : (chain.stage number).Allocated id) (node : Option NodeId) :
    Acc (chain.limit identity).Child ⟨id, node⟩ :=
  chain.acc_limit identity h.tabled h.acyclic hid node

/-- What becomes of a name among the properties that are merged. -/
structure Merges (chain : Chain) (occurrences : List Property) (name : String) (property : Property) :
    Prop where
  occurs : PropertyMerge.named name occurrences ≠ []
  name_eq : property.name = name
  flags_eq : property.flags = .mergeAll (PropertyMerge.named name occurrences)
  meets : chain.Meets ((PropertyMerge.named name occurrences).map (·.type)) property.type

/-- The properties of an intersection are those of its members, merged name by name. -/
theorem Complete.properties_intersection (h : chain.Complete) (identity : TypeId → Identity)
    (hdata : chain.Holds id (.intersection members)) :
    let occurrences := members.flatMap (chain.limit identity).properties
    List.Forall₂ (chain.Merges occurrences) (occurrences.map (·.name)).eraseDups
      ((chain.limit identity).properties id) := by
  obtain ⟨number, hget⟩ := hdata
  obtain ⟨later, properties, hsettled⟩ :=
    h.settles number id ((chain.whole_stage number).allocated_of_get? hget)
  rw [chain.properties_limit identity hsettled]
  cases hsettled with
  | plain hother hplain => exact absurd (Holds.unique ⟨later, hother⟩ ⟨number, hget⟩) (hplain members)
  | @merged _ others lists _ hother hmembers hclosed =>
    cases Holds.unique ⟨later, hother⟩ ⟨number, hget⟩
    have hlists : members.flatMap lists = members.flatMap (chain.limit identity).properties :=
      List.flatMap_congr fun member hmember =>
        (chain.properties_limit identity (hmembers member hmember)).symm
    rw [hlists, PropertyMerge.entries_addAll, List.forall₂_map_left_iff] at hclosed
    dsimp only
    generalize members.flatMap (chain.limit identity).properties = occurrences at hclosed ⊢
    refine forall₂_imp_of_mem hclosed fun name hname property hcloses => ?_
    exact ⟨PropertyMerge.named_ne_nil (List.mem_eraseDups.mp hname), hcloses.name, hcloses.flags,
      Meets.congr (eraseDups_eraseDups _) ⟨later, hcloses.type⟩⟩

end Chain

end Store

end Immutability
