import Immutability.Proofs.Interning
import Immutability.Proofs.MergedProperties
import Mathlib.Data.Finset.Card
import Mathlib.Logic.Relation

/-!
# Listing properties

Listing the properties of an intersection stores the intersections of the types that a property has in
several members. Nothing else about the store changes, and the new types are built from types that the
store had: this is what a store gains (`Gains`). Once every intersection that a listing calls for is
stored, the listing is settled: it comes out the same in every store that gains from this one, and stores
nothing further. A listing settles itself.
-/

set_option autoImplicit false

namespace Immutability

/-! ### Bounded chains -/

/-- Every chain of links from here on has fewer links than the bound. -/
def Within {α : Type} (linked : α → α → Prop) : Nat → α → Prop
  | 0, _ => False
  | bound + 1, a => ∀ b, linked a b → Within linked bound b

namespace Within

variable {α : Type} {linked : α → α → Prop}

theorem mono {bound more : Nat} {a : α} (h : Within linked bound a) (hle : bound ≤ more) :
    Within linked more a := by
  induction bound generalizing more a with
  | zero => exact h.elim
  | succ bound ih =>
    obtain ⟨more, rfl⟩ := Nat.exists_eq_add_of_le' (Nat.lt_of_lt_of_le (Nat.succ_pos bound) hle)
    intro b hb
    exact ih (h b hb) (Nat.le_of_succ_le_succ hle)

/-- Without cycles no chain is longer than the set that its links start in. -/
theorem of_acyclic [DecidableEq α] {starts : Finset α} (hstarts : ∀ a b, linked a b → a ∈ starts)
    (hacyclic : ∀ a, ¬ Relation.TransGen linked a a) (a : α) :
    Within linked (starts.card + 1) a := by
  -- the links passed so far start in pairwise different elements
  have hpassed : ∀ bound (passed : Finset α) a, passed ⊆ starts →
      (∀ b ∈ passed, Relation.TransGen linked b a) → passed.card + bound = starts.card + 1 →
      Within linked bound a := by
    intro bound
    induction bound with
    | zero =>
      intro passed a hsub _ hcard
      have hle := Finset.card_le_card hsub
      omega
    | succ bound ih =>
      intro passed a hsub hreach hcard b hb
      have hnew : a ∉ passed := fun hin => hacyclic a (hreach a hin)
      apply ih (insert a passed) b
      · exact Finset.insert_subset (hstarts a b hb) hsub
      · intro c hc
        rcases Finset.mem_insert.mp hc with rfl | hc
        · exact .single hb
        · exact (hreach c hc).tail hb
      · rw [Finset.card_insert_of_notMem hnew]
        omega
  exact hpassed _ ∅ a (Finset.empty_subset _) (by simp) (by simp)

end Within

/-! ### What stored types are made of -/

namespace StoredType

def mentions : StoredType → List TypeId
  | union members | intersection members => members
  | conditional type => [type.check, type.extended, type.whenTrue.id, type.whenFalse.id]
  | object type => type.properties.map (·.type) ++ type.typeArguments ++
      (type.stringIndex.map (·.value)).toList ++ (type.numberIndex.map (·.value)).toList
  | _ => []

/-- The types that the classification of a type may depend on directly: those it mentions, but for the
condition of a choice. -/
def parts : StoredType → List TypeId
  | conditional type => [type.whenTrue.id, type.whenFalse.id]
  | data => data.mentions

def members : StoredType → List TypeId
  | intersection members => members
  | _ => []

def properties : StoredType → List Property
  | object type => type.properties
  | _ => []

theorem type_mem_mentions {data : StoredType} {property : Property}
    (h : property ∈ data.properties) : property.type ∈ data.mentions := by
  cases data with
  | object type =>
    simp only [mentions, List.mem_append, List.mem_map]
    exact Or.inl (Or.inl (Or.inl ⟨property, h, rfl⟩))
  | _ => cases h

end StoredType

namespace Store

variable {store later : Store} {id : TypeId} {members : List TypeId}

def Allocated (store : Store) (id : TypeId) : Prop := id.index < store.nextType.index

def Linked (parts : StoredType → List TypeId) (store : Store) (parent child : TypeId) : Prop :=
  ∃ data, store.get? parent = some data ∧ child ∈ parts data

abbrev Member : Store → TypeId → TypeId → Prop := Linked StoredType.members

structure Closed (store : Store) : Prop where
  types : ∀ id data, store.get? id = some data → ∀ other ∈ data.mentions, store.Allocated other
  aliases : ∀ id found, store.aliasOf? id = some found →
    ∀ other ∈ found.arguments, store.Allocated other

/-- A store in order that mentions allocated types only and in which no intersection contains itself. -/
structure Whole (store : Store) : Prop where
  orderly : ∃ unfinished, Orderly store unfinished
  intrinsic : firstType.index ≤ store.nextType.index
  closed : store.Closed
  acyclic : ∀ id, ¬ Relation.TransGen store.Member id id

theorem Whole.get?_ne_none_iff (h : store.Whole) : store.get? id ≠ none ↔ store.Allocated id := by
  obtain ⟨_, horderly⟩ := h.orderly
  rw [Allocated, ← horderly.stored id, Option.isSome_iff_ne_none]

theorem Whole.allocated_of_get? (h : store.Whole) {data : StoredType}
    (hget : store.get? id = some data) : store.Allocated id := by
  rw [← h.get?_ne_none_iff, hget]
  exact Option.some_ne_none data

theorem Whole.exists_get? (h : store.Whole) (hid : store.Allocated id) :
    ∃ data, store.get? id = some data :=
  Option.ne_none_iff_exists'.mp (h.get?_ne_none_iff.mpr hid)

/-- Without cycles no chain of links between stored types is longer than the number of types. -/
theorem within_of_acyclic {linked : TypeId → TypeId → Prop}
    (hstored : ∀ parent child, linked parent child → store.get? parent ≠ none)
    (hacyclic : ∀ id, ¬ Relation.TransGen linked id id) (id : TypeId) :
    Within linked (store.types.size + 1) id := by
  have hstarts : ∀ parent child, linked parent child → parent ∈ store.types.keys.toFinset := by
    intro parent child hlink
    rw [List.mem_toFinset, Std.TreeMap.mem_keys, ← Std.TreeMap.isSome_getElem?_iff_mem]
    exact Option.isSome_iff_ne_none.mpr (hstored parent child hlink)
  have hcard : store.types.keys.toFinset.card ≤ store.types.size := by
    rw [← Std.TreeMap.length_keys]
    exact List.toFinset_card_le _
  exact (Within.of_acyclic hstarts hacyclic id).mono (Nat.succ_le_succ hcard)

theorem Linked.ne_none {parts : StoredType → List TypeId} {parent child : TypeId}
    (h : Linked parts store parent child) : store.get? parent ≠ none := by
  obtain ⟨data, hget, _⟩ := h
  rw [hget]
  exact Option.some_ne_none data

/-- The steps that listing properties allows for are enough. -/
theorem Whole.within (h : store.Whole) (id : TypeId) :
    Within store.Member (store.types.size + 1) id :=
  within_of_acyclic (fun _ _ => Linked.ne_none) h.acyclic id

/-! ### Gains -/

/-- The later store has all that the earlier one has, and all that it adds are types. -/
structure Extends (earlier later : Store) : Prop where
  grows : Grows earlier later
  kept : ∀ id, earlier.Allocated id → later.get? id = earlier.get? id
  frame : later =
    { earlier with
      types := later.types, nextType := later.nextType, interned := later.interned }

namespace Extends

theorem refl (store : Store) : Extends store store := ⟨Grows.refl store, fun _ _ => rfl, rfl⟩

theorem allocated (h : Extends store later) (hid : store.Allocated id) : later.Allocated id :=
  Nat.lt_of_lt_of_le hid h.grows.next_le

theorem trans {first second third : Store} (h : Extends first second) (g : Extends second third) :
    Extends first third where
  grows := h.grows.trans g.grows
  kept id hid := (g.kept id (h.allocated hid)).trans (h.kept id hid)
  frame := by
    refine g.frame.trans ?_
    rw [h.frame]

end Extends

/-- An intersection that is new comes under the next handle, and nothing else changes. -/
theorem extends_intersection (store : Store) (members : List TypeId) :
    Extends store (store.intersection members).2 := by
  rcases store.intersection_cases members with ⟨he, _⟩ | ⟨he, _⟩
  · rw [he]
    exact Extends.refl store
  · rw [he]
    cases hc : store.interned? (.intersection (distinct members)) with
    | some id =>
      rw [share_of_interned hc]
      exact Extends.refl store
    | none =>
      rw [share_of_new hc]
      refine ⟨Grows.enroll hc _, fun id hid => ?_, rfl⟩
      have hne : store.nextType ≠ id := by
        rintro rfl
        exact Nat.lt_irrefl _ hid
      rw [get?_intern, get?_register, if_neg hne]

/-- The later store comes from the earlier one by an intersection of types that it has. -/
def Adds (store later : Store) : Prop :=
  ∃ members, (∀ member ∈ members, store.Allocated member) ∧ later = (store.intersection members).2

/-- What listing properties may do to a store. -/
abbrev Gains : Store → Store → Prop := Relation.ReflTransGen Adds

/-- An intersection that is new comes under the next handle, with its distinct members. -/
theorem Adds.cases (h : Adds store later) :
    later = store ∨ ∃ members, (∀ member ∈ members, store.Allocated member) ∧
      store.interned? (.intersection members) = none ∧
      later = (store.register (.intersection members)).2.intern (.intersection members)
        store.nextType := by
  obtain ⟨members, hmembers, rfl⟩ := h
  rcases store.intersection_cases members with ⟨he, _⟩ | ⟨he, _⟩
  · exact Or.inl he
  · rw [he]
    cases hc : store.interned? (.intersection (distinct members)) with
    | some id => exact Or.inl (by rw [share_of_interned hc])
    | none =>
      refine Or.inr ⟨distinct members, ?_, hc, by rw [share_of_new hc]⟩
      exact fun member hmember => hmembers member (mem_distinct.mp hmember)

theorem Adds.extends (h : Adds store later) : Extends store later := by
  obtain ⟨members, _, rfl⟩ := h
  exact store.extends_intersection members

theorem Gains.extends (h : Gains store later) : Extends store later := by
  induction h with
  | refl => exact Extends.refl store
  | tail _ hadds ih => exact ih.trans hadds.extends

/-- A link that starts in an allocated type was there before. -/
theorem Extends.linked_iff (h : Extends store later) (parts : StoredType → List TypeId)
    {parent child : TypeId} (hparent : store.Allocated parent) :
    Linked parts later parent child ↔ Linked parts store parent child := by
  rw [Linked, Linked, h.kept parent hparent]

theorem Whole.within_of_extends (hwhole : store.Whole) (h : Extends store later)
    {parts : StoredType → List TypeId} (hparts : ∀ data, parts data ⊆ data.mentions) {bound : Nat}
    (hid : store.Allocated id) (hwithin : Within (Linked parts store) bound id) :
    Within (Linked parts later) bound id := by
  induction bound generalizing id with
  | zero => exact hwithin
  | succ bound ih =>
    intro child hlink
    have hold := (h.linked_iff parts hid).mp hlink
    obtain ⟨data, hget, hmem⟩ := hold
    exact ih (hwhole.closed.types _ data hget child (hparts data hmem)) (hwithin child ⟨data, hget, hmem⟩)

/-- What is linked from a type that was there before was linked from it already. -/
theorem Whole.transGen_of_extends {parts : StoredType → List TypeId} (hwhole : store.Whole)
    (hextends : Extends store later) (hparts : ∀ data, parts data ⊆ data.mentions)
    {parent child : TypeId} (h : Relation.TransGen (Linked parts later) parent child)
    (hparent : store.Allocated parent) :
    Relation.TransGen (Linked parts store) parent child ∧ store.Allocated child := by
  have hstep : ∀ {a b}, store.Allocated a → Linked parts later a b →
      Linked parts store a b ∧ store.Allocated b := by
    intro a b ha hlink
    obtain ⟨data, hget, hmem⟩ := (hextends.linked_iff parts ha).mp hlink
    exact ⟨⟨data, hget, hmem⟩, hwhole.closed.types a data hget b (hparts data hmem)⟩
  induction h with
  | single hlink =>
    obtain ⟨hlink, hchild⟩ := hstep hparent hlink
    exact ⟨.single hlink, hchild⟩
  | tail _ hlink ih =>
    obtain ⟨hchain, hmiddle⟩ := ih
    obtain ⟨hlink, hchild⟩ := hstep hmiddle hlink
    exact ⟨hchain.tail hlink, hchild⟩

/-- What new intersections consist of comes before them, so they close no cycle. -/
theorem Adds.acyclic {parts : StoredType → List TypeId} (hadds : Adds store later)
    (hwhole : store.Whole) (hparts : ∀ data, parts data ⊆ data.mentions)
    (h : ∀ id, ¬ Relation.TransGen (Linked parts store) id id) (id : TypeId) :
    ¬ Relation.TransGen (Linked parts later) id id := by
  by_cases hid : store.Allocated id
  · exact fun hchain => h id (hwhole.transGen_of_extends hadds.extends hparts hchain hid).1
  · -- a cycle through a new type would have to lead back to it from an old one
    intro hchain
    obtain ⟨next, hlink, hrest⟩ := Relation.TransGen.head'_iff.mp hchain
    have hnext : store.Allocated next := by
      obtain ⟨data, hget, hmem⟩ := hlink
      rcases hadds.cases with rfl | ⟨members, hmembers, _, rfl⟩
      · exact hwhole.closed.types id data hget next (hparts data hmem)
      · rw [get?_intern, get?_register] at hget
        split at hget
        · cases hget
          exact hmembers next (hparts _ hmem)
        · exact hwhole.closed.types id data hget next (hparts data hmem)
    rcases Relation.reflTransGen_iff_eq_or_transGen.mp hrest with rfl | hrest
    · exact hid hnext
    · exact hid (hwhole.transGen_of_extends hadds.extends hparts hrest hnext).2

theorem members_subset_mentions (data : StoredType) : data.members ⊆ data.mentions := by
  cases data with
  | intersection members => exact List.Subset.refl members
  | _ => exact List.nil_subset _

theorem parts_subset_mentions (data : StoredType) : data.parts ⊆ data.mentions := by
  cases data with
  | conditional type => simp [StoredType.parts, StoredType.mentions]
  | _ => exact List.Subset.refl _

theorem Adds.whole (hadds : Adds store later) (h : store.Whole) : later.Whole where
  orderly := by
    obtain ⟨members, _, rfl⟩ := hadds
    obtain ⟨unfinished, horderly⟩ := h.orderly
    exact ⟨unfinished, horderly.intersection members⟩
  intrinsic := Nat.le_trans h.intrinsic hadds.extends.grows.next_le
  closed := by
    have hextends := hadds.extends
    constructor
    · intro id data hget other hother
      rcases hadds.cases with rfl | ⟨members, hmembers, _, rfl⟩
      · exact h.closed.types id data hget other hother
      · rw [get?_intern, get?_register] at hget
        split at hget
        · cases hget
          exact hextends.allocated (hmembers other hother)
        · exact hextends.allocated (h.closed.types id data hget other hother)
    · intro id found hfound other hother
      have hsame : later.aliasOf? id = store.aliasOf? id := by rw [hextends.frame]; rfl
      rw [hsame] at hfound
      exact hextends.allocated (h.closed.aliases id found hfound other hother)
  acyclic := hadds.acyclic h members_subset_mentions h.acyclic

theorem Gains.whole (hgains : Gains store later) (h : store.Whole) : later.Whole := by
  induction hgains with
  | refl => exact h
  | tail _ hadds ih => exact hadds.whole ih

theorem Gains.acyclic {parts : StoredType → List TypeId} (hgains : Gains store later)
    (hwhole : store.Whole) (hparts : ∀ data, parts data ⊆ data.mentions)
    (h : ∀ id, ¬ Relation.TransGen (Linked parts store) id id) :
    ∀ id, ¬ Relation.TransGen (Linked parts later) id id := by
  induction hgains with
  | refl => exact h
  | tail hbefore hadds ih => exact hadds.acyclic (Gains.whole hbefore hwhole) hparts ih

/-! ### Intersections that are stored already -/

/-- The intersection of some types, if it needs no new type. -/
def meet? (store : Store) (members : List TypeId) : Option TypeId :=
  match distinct members with
  | [] => some Intrinsic.never.id
  | [member] => some member
  | members => store.interned? (.intersection members)

theorem intersection_of_meet? (h : store.meet? members = some id) :
    store.intersection members = (id, store) := by
  unfold meet? at h
  unfold intersection
  rcases hd : distinct members with _ | ⟨first, _ | ⟨second, rest⟩⟩ <;> rw [hd] at h
  · cases h
    rfl
  · cases h
    rfl
  · exact share_of_interned h _

theorem meet?_intersection (store : Store) (members : List TypeId) :
    (store.intersection members).2.meet? members = some (store.intersection members).1 := by
  unfold meet? intersection
  rcases distinct members with _ | ⟨first, _ | ⟨second, rest⟩⟩
  · rfl
  · rfl
  · exact interned?_share _ _ _

theorem Extends.meet? (h : Extends store later) (hmeet : store.meet? members = some id) :
    later.meet? members = some id := by
  unfold Store.meet? at hmeet ⊢
  rcases hd : distinct members with _ | ⟨first, _ | ⟨second, rest⟩⟩ <;> rw [hd] at hmeet
  · exact hmeet
  · exact hmeet
  · exact h.grows.interned_mono _ _ hmeet

theorem Whole.allocated_of_meet? (h : store.Whole)
    (hmembers : ∀ member ∈ members, store.Allocated member) (hmeet : store.meet? members = some id) :
    store.Allocated id := by
  unfold meet? at hmeet
  split at hmeet
  · cases hmeet
    exact Nat.lt_of_lt_of_le (by decide) h.intrinsic
  · next member hdistinct =>
    cases hmeet
    apply hmembers id
    rw [← mem_distinct, hdistinct]
    exact List.mem_singleton_self id
  · obtain ⟨_, horderly⟩ := h.orderly
    exact horderly.allocated _ _ hmeet

/-! ### Settled listings -/

/-- A merged property is given its type, which is stored already. -/
structure GivesType (store : Store) (entry : String × MergedProperty) (property : Property) : Prop where
  name : property.name = entry.1
  flags : property.flags = entry.2.flags
  type : store.meet? entry.2.types = some property.type

/-- The properties of a type are these, and all that is needed to list them is stored. -/
inductive Settled (store : Store) : TypeId → List Property → Prop where
  | plain {id : TypeId} {data : StoredType} :
      store.get? id = some data → (∀ members, data ≠ .intersection members) →
      Settled store id data.properties
  | merged {id : TypeId} {members : List TypeId} {lists : TypeId → List Property}
      {properties : List Property} :
      store.get? id = some (.intersection members) →
      (∀ member ∈ members, Settled store member (lists member)) →
      List.Forall₂ store.GivesType (PropertyMerge.addAll {} (members.flatMap lists)).entries properties →
      Settled store id properties

theorem Extends.closes (h : Extends store later) {entry : String × MergedProperty}
    {property : Property} (hgives : store.GivesType entry property) : later.GivesType entry property :=
  ⟨hgives.name, hgives.flags, h.meet? hgives.type⟩

theorem Whole.settled_of_extends (hwhole : store.Whole) (h : Extends store later)
    {properties : List Property} (hsettled : store.Settled id properties) :
    later.Settled id properties := by
  induction hsettled with
  | plain hget hplain =>
    refine .plain ?_ hplain
    rw [h.kept _ (hwhole.allocated_of_get? hget), hget]
  | merged hget _ hclosed ih =>
    refine .merged ?_ ih (hclosed.imp fun _ _ => h.closes)
    rw [h.kept _ (hwhole.allocated_of_get? hget), hget]

theorem closeMerge_of_givesType {entries : List (String × MergedProperty)} {properties : List Property}
    (h : List.Forall₂ store.GivesType entries properties) :
    store.closeMerge entries = (properties, store) := by
  induction h with
  | nil => rfl
  | @cons entry property _ _ hgives _ ih =>
    obtain ⟨name, merged⟩ := entry
    obtain ⟨rfl, hflags, htype⟩ := hgives
    simp only [closeMerge, intersection_of_meet? htype, ih]
    rw [← hflags]

def takeIn (depth : Nat) (state : PropertyMerge × Store) (member : TypeId) : PropertyMerge × Store :=
  (state.1.addAll (propertiesWithin depth state.2 member).1,
    (propertiesWithin depth state.2 member).2)

theorem propertiesWithin_intersection {depth : Nat}
    (h : store.get? id = some (.intersection members)) :
    propertiesWithin (depth + 1) store id =
      (members.foldl (takeIn depth) ({}, store)).2.closeMerge
        (members.foldl (takeIn depth) ({}, store)).1.entries := by
  rw [propertiesWithin, h]
  rfl

theorem propertiesWithin_plain {depth : Nat} {data : StoredType} (h : store.get? id = some data)
    (hplain : ∀ members, data ≠ .intersection members) :
    propertiesWithin (depth + 1) store id = (data.properties, store) := by
  rw [propertiesWithin, h]
  cases data with
  | intersection members => exact absurd rfl (hplain members)
  | _ => rfl

/-- Members whose listings leave the store alone are taken in one after another. -/
theorem foldl_takeIn {depth : Nat} {lists : TypeId → List Property}
    (h : ∀ member ∈ members, propertiesWithin depth store member = (lists member, store))
    (merge : PropertyMerge) :
    members.foldl (takeIn depth) (merge, store) = (merge.addAll (members.flatMap lists), store) := by
  induction members generalizing merge with
  | nil => rfl
  | cons member rest ih =>
    obtain ⟨hmember, hrest⟩ := List.forall_mem_cons.mp h
    rw [List.foldl_cons, takeIn, hmember, ih hrest, List.flatMap_cons, PropertyMerge.addAll_append]

/-- A settled listing comes out as it is settled and leaves the store alone. -/
theorem Settled.propertiesWithin_eq {properties : List Property} {depth : Nat}
    (h : store.Settled id properties) (hdepth : Within store.Member depth id) :
    propertiesWithin depth store id = (properties, store) := by
  induction h generalizing depth with
  | @plain id data hget hplain =>
    cases depth with
    | zero => exact hdepth.elim
    | succ depth => exact propertiesWithin_plain hget hplain
  | @merged id members lists properties hget _ hclosed ih =>
    cases depth with
    | zero => exact hdepth.elim
    | succ depth =>
      have hmembers : ∀ member ∈ members,
          propertiesWithin depth store member = (lists member, store) :=
        fun member hmember => ih member hmember (hdepth member ⟨_, hget, hmember⟩)
      rw [propertiesWithin_intersection hget, foldl_takeIn hmembers]
      exact closeMerge_of_givesType hclosed

theorem Whole.properties_eq (hwhole : store.Whole) {properties : List Property}
    (h : store.Settled id properties) : store.properties id = (properties, store) :=
  h.propertiesWithin_eq (hwhole.within id)

theorem Whole.settled_unique (hwhole : store.Whole) {properties others : List Property}
    (h : store.Settled id properties) (g : store.Settled id others) : properties = others := by
  have heq := (hwhole.properties_eq h).symm.trans (hwhole.properties_eq g)
  exact (Prod.mk.inj heq).1

/-! ### A listing settles itself -/

/-- The types of merged properties occur among the properties that were merged. -/
theorem mem_of_mem_entries {properties : List Property} {entry : String × MergedProperty}
    (h : entry ∈ (PropertyMerge.addAll {} properties).entries) {type : TypeId}
    (htype : type ∈ entry.2.types) : ∃ property ∈ properties, property.type = type := by
  rw [PropertyMerge.entries_addAll] at h
  obtain ⟨name, _, rfl⟩ := List.mem_map.mp h
  rw [MergedProperty.ofOccurrences, List.mem_eraseDups] at htype
  obtain ⟨property, hproperty, rfl⟩ := List.mem_map.mp htype
  exact ⟨property, (List.mem_filter.mp hproperty).1, rfl⟩

/-- A listing that comes to these properties and is settled by it. -/
structure Lists (store : Store) (id : TypeId) (properties : List Property) (later : Store) : Prop where
  gains : Gains store later
  settled : later.Settled id properties
  allocated : ∀ property ∈ properties, later.Allocated property.type

theorem closeMerge_spec (hwhole : store.Whole) {entries : List (String × MergedProperty)}
    (hentries : ∀ entry ∈ entries, ∀ type ∈ entry.2.types, store.Allocated type) :
    Gains store (store.closeMerge entries).2 ∧
    List.Forall₂ (store.closeMerge entries).2.GivesType entries (store.closeMerge entries).1 ∧
    ∀ property ∈ (store.closeMerge entries).1, (store.closeMerge entries).2.Allocated property.type := by
  induction entries generalizing store with
  | nil => exact ⟨.refl, .nil, by simp [closeMerge]⟩
  | cons entry rest ih =>
    obtain ⟨name, merged⟩ := entry
    obtain ⟨hfirst, hrest⟩ := List.forall_mem_cons.mp hentries
    have hadds : Adds store (store.intersection merged.types).2 := ⟨merged.types, hfirst, rfl⟩
    have hnext := hadds.whole hwhole
    have hmeet := store.meet?_intersection merged.types
    have hid := hnext.allocated_of_meet?
      (fun type htype => hadds.extends.allocated (hfirst type htype)) hmeet
    obtain ⟨hgains, hclosed, hallocated⟩ := ih hnext
      fun entry hentry type htype => hadds.extends.allocated (hrest entry hentry type htype)
    have hextends := Gains.extends hgains
    refine ⟨.head hadds hgains, .cons ⟨rfl, rfl, hextends.meet? hmeet⟩ hclosed, ?_⟩
    exact List.forall_mem_cons.mpr ⟨hextends.allocated hid, hallocated⟩

/-- What taking in the properties of some members does, one member after another. -/
theorem foldMembers_spec {depth : Nat}
    (hlists : ∀ {store : Store} {id : TypeId}, store.Whole → store.Allocated id →
      Within store.Member depth id →
      store.Lists id (propertiesWithin depth store id).1 (propertiesWithin depth store id).2)
    {members : List TypeId} (hwhole : store.Whole)
    (hmembers : ∀ member ∈ members, store.Allocated member ∧ Within store.Member depth member)
    (merge : PropertyMerge) :
    ∃ lists later,
      members.foldl (takeIn depth) (merge, store) = (merge.addAll (members.flatMap lists), later) ∧
      Gains store later ∧ ∀ member ∈ members, later.Settled member (lists member) ∧
        ∀ property ∈ lists member, later.Allocated property.type := by
  induction members generalizing store merge with
  | nil => exact ⟨fun _ => [], store, rfl, .refl, by simp⟩
  | cons member rest ih =>
    obtain ⟨⟨hid, hwithin⟩, hrest⟩ := List.forall_mem_cons.mp hmembers
    obtain ⟨hgains, hsettled, hallocated⟩ := hlists hwhole hid hwithin
    have hnext := Gains.whole hgains hwhole
    have hextends := Gains.extends hgains
    obtain ⟨lists, later, hfold, hmore, hall⟩ := ih hnext
      (fun other hother => ⟨hextends.allocated (hrest other hother).1,
        hwhole.within_of_extends hextends members_subset_mentions (hrest other hother).1
          (hrest other hother).2⟩)
      (merge.addAll (propertiesWithin depth store member).1)
    have hlater := Gains.extends hmore
    have hfirst := hnext.settled_of_extends hlater hsettled
    -- a member that occurs again is listed as before
    let whole := fun other =>
      if other = member then (propertiesWithin depth store member).1 else lists other
    have hsame : ∀ other ∈ rest, whole other = lists other := by
      intro other hother
      by_cases he : other = member
      · subst he
        simp only [whole, if_true]
        exact (Gains.whole hmore hnext).settled_unique hfirst (hall other hother).1
      · simp only [whole, he, if_false]
    refine ⟨whole, later, ?_, hgains.trans hmore, ?_⟩
    · have hgathered : (member :: rest).flatMap whole =
          (propertiesWithin depth store member).1 ++ rest.flatMap lists := by
        have hhead : whole member = (propertiesWithin depth store member).1 := if_pos rfl
        rw [List.flatMap_cons, hhead, List.flatMap_congr hsame]
      rw [hgathered, PropertyMerge.addAll_append]
      exact hfold
    · intro other hother
      by_cases he : other = member
      · subst he
        simp only [whole, if_true]
        exact ⟨hfirst, fun property hproperty => hlater.allocated (hallocated property hproperty)⟩
      · simp only [whole, he, if_false]
        exact hall other ((List.mem_cons.mp hother).resolve_left he)

theorem propertiesWithin_lists {depth : Nat} (hwhole : store.Whole) (hid : store.Allocated id)
    (hwithin : Within store.Member depth id) :
    store.Lists id (propertiesWithin depth store id).1 (propertiesWithin depth store id).2 := by
  induction depth generalizing store id with
  | zero => exact hwithin.elim
  | succ depth ih =>
    obtain ⟨data, hget⟩ := hwhole.exists_get? hid
    by_cases hplain : ∃ members, data = .intersection members
    · obtain ⟨members, rfl⟩ := hplain
      have hmembers : ∀ member ∈ members,
          store.Allocated member ∧ Within store.Member depth member :=
        fun member hmember => ⟨hwhole.closed.types id _ hget member hmember,
          hwithin member ⟨_, hget, hmember⟩⟩
      obtain ⟨lists, middle, hfold, hgains, hall⟩ := foldMembers_spec ih hwhole hmembers {}
      have hnext := Gains.whole hgains hwhole
      have hentries : ∀ entry ∈ (PropertyMerge.addAll {} (members.flatMap lists)).entries,
          ∀ type ∈ entry.2.types, middle.Allocated type := by
        intro entry hentry type htype
        obtain ⟨property, hproperty, rfl⟩ := mem_of_mem_entries hentry htype
        obtain ⟨member, hmember, hproperty⟩ := List.mem_flatMap.mp hproperty
        exact (hall member hmember).2 property hproperty
      obtain ⟨hmore, hclosed, hallocated⟩ := closeMerge_spec hnext hentries
      have hlater := Gains.extends hmore
      rw [propertiesWithin_intersection hget, hfold]
      refine ⟨hgains.trans hmore, .merged ?_ (fun member hmember => ?_) hclosed, hallocated⟩
      · rw [((Gains.extends hgains).trans hlater).kept id hid, hget]
      · exact hnext.settled_of_extends hlater (hall member hmember).1
    · have hplain := not_exists.mp hplain
      rw [propertiesWithin_plain hget hplain]
      refine ⟨.refl, .plain hget hplain, ?_⟩
      intro property hproperty
      exact hwhole.closed.types id data hget _ (StoredType.type_mem_mentions hproperty)

/-- Listing the properties of an allocated type settles the listing. -/
theorem Whole.lists (hwhole : store.Whole) (hid : store.Allocated id) :
    store.Lists id (store.properties id).1 (store.properties id).2 :=
  propertiesWithin_lists hwhole hid (hwhole.within id)

theorem Whole.properties_of_not_allocated (hwhole : store.Whole) (hid : ¬ store.Allocated id) :
    store.properties id = ([], store) := by
  rw [← hwhole.get?_ne_none_iff, not_ne_iff] at hid
  rw [properties, propertiesWithin, hid]

theorem Whole.gains_properties (hwhole : store.Whole) (id : TypeId) :
    Gains store (store.properties id).2 := by
  by_cases hid : store.Allocated id
  · exact (hwhole.lists hid).gains
  · rw [hwhole.properties_of_not_allocated hid]

end Store

end Immutability
