import Immutability.Proofs.Histories
import Immutability.Proofs.SettledListings

/-!
# Properties of nested intersections

Listing the properties of an intersection merges what its members list, and members that are
intersections themselves have merged before. What comes out in the end can be read off the occurrences of
properties at the leaves of the nesting, from left to right: names stand at their first occurrences, and
flags are joined over all occurrences. Types are different. A member gives one type for each name, which
may be an intersection that was stored for it, and only these types are intersected further.

Listing stores new types on its way. It does not come across them as long as everything below the
intersection has been allocated. A member that is mentioned before it is allocated may be a type that the
listing itself has just stored.
-/

set_option autoImplicit false

namespace Immutability

theorem eraseDups_append_eraseDups {α : Type} [BEq α] [LawfulBEq α] (list rest : List α) :
    (list ++ rest.eraseDups).eraseDups = (list ++ rest).eraseDups := by
  induction rest using List.reverseRecOn with
  | nil => rfl
  | append_singleton rest last ih =>
    rw [eraseDups_concat, ← List.append_assoc, eraseDups_concat]
    by_cases hseen : last ∈ rest
    · simp [hseen, ih]
    · rw [if_neg hseen, ← List.append_assoc, eraseDups_concat, ih]
      simp

theorem eraseDups_append_congr {α : Type} [BEq α] [LawfulBEq α] {list rest list' rest' : List α}
    (hlist : list.eraseDups = list'.eraseDups) (hrest : rest.eraseDups = rest'.eraseDups) :
    (list ++ rest).eraseDups = (list' ++ rest').eraseDups := by
  rw [← eraseDups_eraseDups_append, ← eraseDups_append_eraseDups, hlist, hrest,
    eraseDups_append_eraseDups, eraseDups_eraseDups_append]

namespace PropertyFlags

theorem mergeAll_eq (properties : List Property) :
    mergeAll properties =
      { readonly := properties.any (·.flags.readonly)
        method := properties.all (·.flags.method)
        privateName := properties.any (·.flags.privateName)
        optional := properties.any (·.flags.optional) } := by
  induction properties with
  | nil => rfl
  | cons property rest ih =>
    rw [mergeAll_cons, ih]
    rfl

end PropertyFlags

open PropertyMerge (named)

/-- Two lists of properties have the same names in the same order of first occurrence, and the same joint
flags for each name. -/
structure Condenses (properties occurrences : List Property) : Prop where
  names : (properties.map (·.name)).eraseDups = (occurrences.map (·.name)).eraseDups
  flags : ∀ name, PropertyFlags.mergeAll (named name properties) =
    PropertyFlags.mergeAll (named name occurrences)

namespace Condenses

theorem refl (properties : List Property) : Condenses properties properties := ⟨rfl, fun _ => rfl⟩

theorem trans {first second third : List Property} (h : Condenses first second)
    (g : Condenses second third) : Condenses first third :=
  ⟨h.names.trans g.names, fun name => (h.flags name).trans (g.flags name)⟩

theorem append {properties others occurrences rest : List Property}
    (h : Condenses properties occurrences) (g : Condenses others rest) :
    Condenses (properties ++ others) (occurrences ++ rest) where
  names := by
    rw [List.map_append, List.map_append]
    exact eraseDups_append_congr h.names g.names
  flags name := by
    rw [PropertyMerge.named_append, PropertyMerge.named_append, PropertyFlags.mergeAll_append,
      PropertyFlags.mergeAll_append, h.flags, g.flags]

theorem flatMap {members : List TypeId} {lists occurrences : TypeId → List Property}
    (h : ∀ member ∈ members, Condenses (lists member) (occurrences member)) :
    Condenses (members.flatMap lists) (members.flatMap occurrences) := by
  induction members with
  | nil => exact refl []
  | cons member rest ih =>
    obtain ⟨hfirst, hrest⟩ := List.forall_mem_cons.mp h
    rw [List.flatMap_cons, List.flatMap_cons]
    exact hfirst.append (ih hrest)

end Condenses

namespace Store

variable {store later last : Store} {id : TypeId} {members : List TypeId} {depth : Nat}

/-- What merging properties comes to once the merged properties have their types. -/
theorem listing_of_givesType {all properties : List Property}
    (h : List.Forall₂ store.GivesType (PropertyMerge.addAll {} all).entries properties) :
    properties.map (·.name) = (all.map (·.name)).eraseDups ∧
    ∀ property ∈ properties, property.flags = .mergeAll (named property.name all) ∧
      store.meet? ((named property.name all).map (·.type)).eraseDups = some property.type := by
  rw [PropertyMerge.entries_addAll, List.forall₂_map_left_iff] at h
  generalize (all.map (·.name)).eraseDups = names at h
  induction h with
  | nil => simp
  | cons hgives _ ih =>
    obtain ⟨rfl, hflags, htype⟩ := hgives
    exact ⟨by rw [List.map_cons, ih.1], List.forall_mem_cons.mpr ⟨⟨hflags, htype⟩, ih.2⟩⟩

theorem condenses_of_givesType {all properties : List Property}
    (h : List.Forall₂ store.GivesType (PropertyMerge.addAll {} all).entries properties) :
    Condenses properties all := by
  obtain ⟨hnames, hproperties⟩ := listing_of_givesType h
  have hnodup : (properties.map (·.name)).Nodup := hnames ▸ nodup_eraseDups _
  refine ⟨by rw [hnames, eraseDups_eraseDups], fun name => ?_⟩
  by_cases hmem : name ∈ properties.map (·.name)
  · obtain ⟨property, hproperty, rfl⟩ := List.mem_map.mp hmem
    rw [PropertyMerge.named_of_nodup hnodup hproperty, PropertyFlags.mergeAll_singleton,
      (hproperties property hproperty).1]
  · have hall : name ∉ all.map (·.name) := by rwa [hnames, List.mem_eraseDups] at hmem
    rw [PropertyMerge.named_eq_nil hmem, PropertyMerge.named_eq_nil hall]

/-! ### Occurrences -/

def declared (store : Store) (id : TypeId) : List Property :=
  ((store.get? id).map (·.properties)).getD []

/-- The occurrences of properties at the leaves of nested intersections, from left to right. -/
inductive Occurrences (store : Store) : TypeId → List Property → Prop where
  | leaf {id : TypeId} : (∀ members, store.get? id ≠ some (.intersection members)) →
      Occurrences store id (store.declared id)
  | nested {id : TypeId} {members : List TypeId} {lists : TypeId → List Property} :
      store.get? id = some (.intersection members) →
      (∀ member ∈ members, Occurrences store member (lists member)) →
      Occurrences store id (members.flatMap lists)

theorem member_iff {child : TypeId} :
    store.Member id child ↔
      ∃ members, store.get? id = some (.intersection members) ∧ child ∈ members := by
  constructor
  · rintro ⟨data, hget, hmem⟩
    cases data with
    | intersection members => exact ⟨members, hget, hmem⟩
    | _ => cases hmem
  · rintro ⟨members, hget, hmem⟩
    exact ⟨_, hget, hmem⟩

theorem Occurrences.unique {occurrences others : List Property} (h : store.Occurrences id occurrences)
    (g : store.Occurrences id others) : occurrences = others := by
  induction h generalizing others with
  | leaf hleaf =>
    cases g with
    | leaf => rfl
    | nested hget => exact absurd hget (hleaf _)
  | nested hget _ ih =>
    cases g with
    | leaf hleaf => exact absurd hget (hleaf _)
    | nested hget' hothers =>
      rw [hget] at hget'
      cases hget'
      exact List.flatMap_congr fun member hmember => ih member hmember (hothers member hmember)

/-- Occurrences can be listed from left to right just where intersections nest well-foundedly. -/
theorem acc_iff_exists_occurrences :
    Acc (fun inner outer => store.Member outer inner) id ↔
      ∃ occurrences, store.Occurrences id occurrences := by
  constructor
  · intro h
    induction h with
    | intro id _ ih =>
      by_cases hget : ∃ members, store.get? id = some (.intersection members)
      · obtain ⟨members, hget⟩ := hget
        choose! lists hlists using fun member hmember => ih member (member_iff.mpr ⟨members, hget, hmember⟩)
        exact ⟨_, .nested hget hlists⟩
      · exact ⟨_, .leaf (not_exists.mp hget)⟩
  · rintro ⟨occurrences, h⟩
    induction h with
    | leaf hleaf =>
      refine .intro _ fun inner hinner => ?_
      obtain ⟨members, hget, _⟩ := member_iff.mp hinner
      exact absurd hget (hleaf members)
    | nested hget _ ih =>
      refine .intro _ fun inner hinner => ?_
      obtain ⟨members, hget', hmem⟩ := member_iff.mp hinner
      rw [hget] at hget'
      cases hget'
      exact ih inner hmem

/-! ### Nesting that a listing does not disturb -/

/-- Intersections nest less deep than the bound from here on, and all that they consist of is allocated. -/
def Anchored (store : Store) : Nat → TypeId → Prop
  | 0, _ => False
  | bound + 1, id => store.Allocated id ∧ ∀ child, store.Member id child → Anchored store bound child

theorem member_iff_mem {child : TypeId} :
    store.Member id child ↔ child ∈ ((store.get? id).map StoredType.members).getD [] := by
  cases hget : store.get? id <;> simp [Linked, hget]

instance Anchored.decidable (store : Store) : (bound : Nat) → (id : TypeId) →
    Decidable (store.Anchored bound id)
  | 0, _ => isFalse fun h => h
  | bound + 1, id =>
    have := Anchored.decidable store bound
    decidable_of_iff (id.index < store.nextType.index ∧
        ∀ child ∈ ((store.get? id).map StoredType.members).getD [], store.Anchored bound child)
      (and_congr_right' (forall_congr' fun _ => imp_congr_left member_iff_mem.symm))

theorem Anchored.of_within (hwithin : Within store.Member depth id)
    (hbelow : ∀ other, Relation.ReflTransGen store.Member id other → store.Allocated other) :
    store.Anchored depth id := by
  induction depth generalizing id with
  | zero => exact hwithin.elim
  | succ depth ih =>
    refine ⟨hbelow id .refl, fun child hchild => ih (hwithin child hchild) fun other hother => ?_⟩
    exact hbelow other (.head hchild hother)

theorem Anchored.extends (h : store.Anchored depth id) (hextends : Extends store later) :
    later.Anchored depth id := by
  induction depth generalizing id with
  | zero => exact h.elim
  | succ depth ih =>
    refine ⟨hextends.allocated h.1, fun child hchild => ih (h.2 child ?_)⟩
    exact (hextends.linked_iff _ h.1).mp hchild

theorem not_transGen_self_of_acc {α : Type} {linked : α → α → Prop} {a : α}
    (h : Acc (fun b a => linked a b) a) : ¬ Relation.TransGen linked a a := by
  induction h with
  | intro a _ ih =>
    intro hcycle
    obtain ⟨b, hab, hba⟩ := Relation.TransGen.head'_iff.mp hcycle
    exact ih b hab (.tail' hba hab)

/-- Below a type whose intersections nest well-foundedly, they nest at most as deep as there are types. -/
theorem within_of_acc (h : Acc (fun inner outer => store.Member outer inner) id) :
    Within store.Member (store.types.size + 1) id := by
  -- a link counts only if it is below the type, since there may be cycles elsewhere
  let linked := fun parent child =>
    Relation.ReflTransGen store.Member id parent ∧ store.Member parent child
  have hacc : ∀ {parent}, Relation.ReflTransGen store.Member id parent →
      Acc (fun inner outer => store.Member outer inner) parent := by
    intro parent hreach
    induction hreach with
    | refl => exact h
    | tail _ hlink ih => exact ih.inv hlink
  have hacyclic : ∀ parent, ¬ Relation.TransGen linked parent parent := by
    intro parent hcycle
    obtain ⟨_, hfirst, _⟩ := Relation.TransGen.head'_iff.mp hcycle
    have hforget : linked ≤ store.Member := fun _ _ hlink => hlink.2
    exact not_transGen_self_of_acc (hacc hfirst.1) (Relation.TransGen.mono hforget _ _ hcycle)
  have hlift : ∀ {bound other}, Relation.ReflTransGen store.Member id other →
      Within linked bound other → Within store.Member bound other := by
    intro bound
    induction bound with
    | zero => exact fun _ hwithin => hwithin
    | succ bound ih =>
      intro other hreach hwithin child hlink
      exact ih (hreach.tail hlink) (hwithin child ⟨hreach, hlink⟩)
  exact hlift .refl (within_of_acyclic (fun parent child hlink => hlink.2.ne_none) hacyclic id)

theorem Anchored.acc (h : store.Anchored depth id) :
    Acc (fun inner outer => store.Member outer inner) id := by
  induction depth generalizing id with
  | zero => exact h.elim
  | succ depth ih => exact .intro id fun child hchild => ih (h.2 child hchild)

theorem Anchored.allocated {other : TypeId} (h : store.Anchored depth id)
    (hreach : Relation.ReflTransGen store.Member id other) : store.Allocated other := by
  induction depth generalizing id with
  | zero => exact h.elim
  | succ depth ih =>
    obtain rfl | ⟨child, hchild, hrest⟩ := hreach.cases_head
    · exact h.1
    · exact ih (h.2 child hchild) hrest

/-- The bound on the nesting can be the number of types. -/
theorem Anchored.fits (h : store.Anchored depth id) : store.Anchored (store.types.size + 1) id :=
  .of_within (within_of_acc h.acc) fun _ => h.allocated

/-! ### Listings stay as they are -/

/-- Giving merged properties their types stores these types. -/
theorem closeMerge_givesType (store : Store) (entries : List (String × MergedProperty)) :
    Extends store (store.closeMerge entries).2 ∧
    List.Forall₂ (store.closeMerge entries).2.GivesType entries (store.closeMerge entries).1 := by
  induction entries generalizing store with
  | nil => exact ⟨Extends.refl store, .nil⟩
  | cons entry rest ih =>
    obtain ⟨name, merged⟩ := entry
    obtain ⟨hextends, hclosed⟩ := ih (store.intersection merged.types).2
    refine ⟨(store.extends_intersection merged.types).trans hextends, .cons ⟨rfl, rfl, ?_⟩ hclosed⟩
    exact hextends.meet? (store.meet?_intersection merged.types)

/-- Listing a type again in any store that has gained from the listing, with room enough, gives the same
and stores nothing. -/
structure Lasts (store : Store) (depth : Nat) (id : TypeId) : Prop where
  extends_later : Extends store (propertiesWithin depth store id).2
  again : ∀ {last : Store} {room : Nat}, Extends (propertiesWithin depth store id).2 last →
    last.Anchored room id → propertiesWithin room last id = ((propertiesWithin depth store id).1, last)

theorem lasts_fold (hlasts : ∀ {store : Store} {id : TypeId}, store.Anchored depth id →
      store.Lasts depth id)
    (hmembers : ∀ member ∈ members, store.Anchored depth member) (merge : PropertyMerge) :
    Extends store (members.foldl (takeIn depth) (merge, store)).2 ∧
    ∀ {last : Store} {room : Nat}, Extends (members.foldl (takeIn depth) (merge, store)).2 last →
      (∀ member ∈ members, last.Anchored room member) →
      (∀ member ∈ members, (propertiesWithin room last member).2 = last) ∧
      (members.foldl (takeIn depth) (merge, store)).1 =
        merge.addAll (members.flatMap fun member => (propertiesWithin room last member).1) := by
  induction members generalizing store merge with
  | nil => exact ⟨Extends.refl store, fun _ _ => ⟨by simp, rfl⟩⟩
  | cons member rest ih =>
    obtain ⟨hfirst, hrest⟩ := List.forall_mem_cons.mp hmembers
    have hlisted := hlasts hfirst
    obtain ⟨hmore, hlater⟩ := ih (fun other hother => (hrest other hother).extends hlisted.extends_later)
      (merge.addAll (propertiesWithin depth store member).1)
    rw [List.foldl_cons]
    refine ⟨hlisted.extends_later.trans hmore, fun hlast hroom => ?_⟩
    obtain ⟨hroom, hothers⟩ := List.forall_mem_cons.mp hroom
    have hagain := hlisted.again (hmore.trans hlast) hroom
    obtain ⟨hkept, hmerged⟩ := hlater hlast hothers
    refine ⟨List.forall_mem_cons.mpr ⟨by rw [hagain], hkept⟩, ?_⟩
    rw [List.flatMap_cons, PropertyMerge.addAll_append, hagain]
    exact hmerged

/-- Listing an intersection gives types to what its members list, in every store that has gained from the
listing. -/
theorem givesType_of_nested (hlasts : ∀ {store : Store} {id : TypeId}, store.Anchored depth id →
      store.Lasts depth id)
    (hget : store.get? id = some (.intersection members))
    (hmembers : ∀ member ∈ members, store.Anchored depth member) :
    Extends store (propertiesWithin (depth + 1) store id).2 ∧
    ∀ {last : Store} {room : Nat}, Extends (propertiesWithin (depth + 1) store id).2 last →
      (∀ member ∈ members, last.Anchored room member) →
      (∀ member ∈ members, (propertiesWithin room last member).2 = last) ∧
      List.Forall₂ last.GivesType
        (PropertyMerge.addAll {}
          (members.flatMap fun member => (propertiesWithin room last member).1)).entries
        (propertiesWithin (depth + 1) store id).1 := by
  obtain ⟨hfold, hmerged⟩ := lasts_fold hlasts hmembers {}
  obtain ⟨hclose, hclosed⟩ := closeMerge_givesType (members.foldl (takeIn depth) ({}, store)).2
    (members.foldl (takeIn depth) ({}, store)).1.entries
  rw [propertiesWithin_intersection hget]
  refine ⟨hfold.trans hclose, fun hlast hroom => ?_⟩
  obtain ⟨hkept, hsame⟩ := hmerged (hclose.trans hlast) hroom
  rw [← hsame]
  exact ⟨hkept, hclosed.imp fun _ _ => hlast.closes⟩

theorem propertiesWithin_leaf (depth : Nat)
    (hleaf : ∀ members, store.get? id ≠ some (.intersection members)) :
    propertiesWithin (depth + 1) store id = (store.declared id, store) := by
  cases hget : store.get? id with
  | none =>
    rw [propertiesWithin, declared, hget]
    rfl
  | some data =>
    have hplain : ∀ members, data ≠ .intersection members := by
      rintro members rfl
      exact hleaf members hget
    rw [propertiesWithin_plain hget hplain, declared, hget]
    rfl

theorem lasts_of_anchored (h : store.Anchored depth id) : store.Lasts depth id := by
  induction depth generalizing store id with
  | zero => exact h.elim
  | succ depth ih =>
    by_cases hnested : ∃ members, store.get? id = some (.intersection members)
    · obtain ⟨members, hget⟩ := hnested
      have hmembers : ∀ member ∈ members, store.Anchored depth member :=
        fun member hmember => h.2 member ⟨_, hget, hmember⟩
      obtain ⟨hlater, hgives⟩ := givesType_of_nested ih hget hmembers
      refine ⟨hlater, fun {last room} hlast hroom => ?_⟩
      cases room with
      | zero => exact hroom.elim
      | succ room =>
        have hagain : last.get? id = some (.intersection members) :=
          ((hlater.trans hlast).kept id h.1).trans hget
        obtain ⟨hkept, hclosed⟩ := hgives hlast
          fun member hmember => hroom.2 member ⟨_, hagain, hmember⟩
        rw [propertiesWithin_intersection hagain,
          foldl_takeIn fun member hmember => Prod.ext rfl (hkept member hmember)]
        exact closeMerge_of_givesType hclosed
    · have hleaf := not_exists.mp hnested
      have hlisted := propertiesWithin_leaf depth hleaf
      have hstays := Extends.refl store
      refine ⟨by rwa [hlisted], fun {last room} hlast hroom => ?_⟩
      rw [hlisted] at hlast ⊢
      cases room with
      | zero => exact hroom.elim
      | succ room =>
        have hsame := hlast.kept id h.1
        rw [propertiesWithin_leaf room (hsame ▸ hleaf), declared, hsame]
        rfl

theorem Occurrences.extends {occurrences : List Property} (ho : store.Occurrences id occurrences)
    (h : store.Anchored depth id) (hextends : Extends store later) :
    later.Occurrences id occurrences := by
  induction ho generalizing depth with
  | @leaf id hleaf =>
    cases depth with
    | zero => exact h.elim
    | succ depth =>
      have hsame := hextends.kept id h.1
      have hdeclared : later.declared id = store.declared id := by rw [declared, hsame, declared]
      exact hdeclared ▸ .leaf (hsame ▸ hleaf)
  | @nested id members lists hget _ ih =>
    cases depth with
    | zero => exact h.elim
    | succ depth =>
      refine .nested ((hextends.kept id h.1).trans hget) fun member hmember => ?_
      exact ih member hmember (h.2 member ⟨_, hget, hmember⟩)

/-- A listing has the names and the flags of the occurrences. -/
theorem condenses_of_anchored {occurrences : List Property} (h : store.Anchored depth id)
    (ho : store.Occurrences id occurrences) :
    Condenses (propertiesWithin depth store id).1 occurrences := by
  induction depth generalizing store id occurrences with
  | zero => exact h.elim
  | succ depth ih =>
    cases ho with
    | leaf hleaf =>
      rw [propertiesWithin_leaf depth hleaf]
      exact .refl _
    | nested hget hlists =>
      have hmembers := fun member hmember => h.2 member ⟨_, hget, hmember⟩
      obtain ⟨hlater, hgives⟩ := givesType_of_nested lasts_of_anchored hget hmembers
      obtain ⟨-, hclosed⟩ := hgives (Extends.refl _)
        fun member hmember => (hmembers member hmember).extends hlater
      refine (condenses_of_givesType hclosed).trans (.flatMap fun member hmember => ?_)
      exact ih ((hmembers member hmember).extends hlater)
        ((hlists member hmember).extends (hmembers member hmember) hlater)

/-! ### Listings of nested intersections -/

theorem eq_of_meet? {type : TypeId} (hmeet : store.meet? members = some id) (hne : members ≠ [])
    (hsame : ∀ member ∈ members, member = type) : id = type := by
  have hdistinct : distinct members = [type] := by
    obtain ⟨first, rest, rfl⟩ := List.exists_cons_of_ne_nil hne
    obtain ⟨rfl, hrest⟩ := List.forall_mem_cons.mp hsame
    have hnone : (rest.filter fun other => !(other == first)) = [] := by
      simpa [List.filter_eq_nil_iff] using hrest
    rw [distinct_eq_eraseDups, List.eraseDups_cons, hnone]
    rfl
  rw [meet?, hdistinct] at hmeet
  exact (Option.some.inj hmeet).symm

/-- How a property of an intersection comes about, from its occurrences at the leaves of the nesting and
from what the members of the intersection list. -/
structure ComesFrom (store : Store) (occurrences given : List Property) (property : Property) :
    Prop where
  readonly : property.flags.readonly = true ↔
    ∃ occurrence ∈ occurrences, occurrence.name = property.name ∧ occurrence.flags.readonly = true
  method : property.flags.method = true ↔
    ∀ occurrence ∈ occurrences, occurrence.name = property.name → occurrence.flags.method = true
  privateName : property.flags.privateName = true ↔
    ∃ occurrence ∈ occurrences, occurrence.name = property.name ∧ occurrence.flags.privateName = true
  optional : property.flags.optional = true ↔
    ∃ occurrence ∈ occurrences, occurrence.name = property.name ∧ occurrence.flags.optional = true
  type : store.intersection ((named property.name given).map (·.type)).eraseDups =
    (property.type, store)
  single : ∀ type, (∀ other ∈ given, other.name = property.name → other.type = type) →
    property.type = type

theorem comesFrom_of_flags {occurrences given : List Property} {property : Property}
    (hmem : property.name ∈ given.map (·.name))
    (hflags : property.flags = .mergeAll (named property.name occurrences))
    (htype : store.meet? ((named property.name given).map (·.type)).eraseDups = some property.type) :
    store.ComesFrom occurrences given property := by
  rw [PropertyFlags.mergeAll_eq] at hflags
  refine ⟨?_, ?_, ?_, ?_, intersection_of_meet? htype, fun type hsame => ?_⟩
  · simp [hflags, named]
  · simp [hflags, named, or_iff_not_imp_left]
  · simp [hflags, named]
  · simp [hflags, named]
  · apply eq_of_meet? htype
    · obtain ⟨other, hother, hname⟩ := List.mem_map.mp hmem
      have hnamed : other ∈ named property.name given :=
        List.mem_filter.mpr ⟨hother, beq_iff_eq.mpr hname⟩
      exact List.ne_nil_of_mem (List.mem_eraseDups.mpr (List.mem_map_of_mem hnamed))
    · intro member hmember
      obtain ⟨other, hother, rfl⟩ := List.mem_map.mp (List.mem_eraseDups.mp hmember)
      obtain ⟨hgiven, hname⟩ := List.mem_filter.mp hother
      exact hsame other hgiven (beq_iff_eq.mp hname)

/-- The properties of an intersection whose nesting is well-founded and consists of allocated types, read
off the occurrences at the leaves of the nesting and off what its members list. -/
theorem properties_of_nesting (store : Store) (id : TypeId) (members : List TypeId)
    (hget : store.get? id = some (.intersection members))
    (hfounded : Acc (fun inner outer => store.Member outer inner) id)
    (hallocated : ∀ other, Relation.TransGen store.Member id other → store.Allocated other) :
    Extends store (store.properties id).2 ∧
    ∃ occurrences, (∀ others, store.Occurrences id others ↔ others = occurrences) ∧
      (store.properties id).1.map (·.name) = (occurrences.map (·.name)).eraseDups ∧
      (∀ member ∈ members,
        ((store.properties id).2.properties member).2 = (store.properties id).2) ∧
      ∀ property ∈ (store.properties id).1,
        (store.properties id).2.ComesFrom occurrences
          (members.flatMap fun member => ((store.properties id).2.properties member).1) property := by
  have hanchored : ∀ member ∈ members, store.Anchored store.types.size member := by
    intro member hmember
    have hlink : store.Member id member := ⟨_, hget, hmember⟩
    exact .of_within (within_of_acc hfounded member hlink) fun other hreach =>
      hallocated other (.head' hlink hreach)
  obtain ⟨hlater, hgives⟩ := givesType_of_nested lasts_of_anchored hget hanchored
  have hfits := fun member hmember => ((hanchored member hmember).extends hlater).fits
  obtain ⟨hkept, hclosed⟩ := hgives (Extends.refl _) hfits
  obtain ⟨hnames : (store.properties id).1.map (·.name) = _, hproperties⟩ := listing_of_givesType hclosed
  obtain ⟨occurrences, ho⟩ := acc_iff_exists_occurrences.mp hfounded
  cases ho with
  | leaf hleaf => exact absurd hget (hleaf members)
  | nested hget' hlists =>
    rw [hget] at hget'
    cases hget'
    have hcondenses := Condenses.flatMap fun member hmember =>
      condenses_of_anchored (hfits member hmember)
        ((hlists member hmember).extends (hanchored member hmember) hlater)
    have hunique : ∀ others, store.Occurrences id others ↔ others = _ := fun others =>
      ⟨fun hothers => hothers.unique (.nested hget hlists), fun heq => heq ▸ .nested hget hlists⟩
    refine ⟨hlater, _, hunique, hnames.trans hcondenses.names, hkept, ?_⟩
    intro property hproperty
    obtain ⟨hflags, htype⟩ := hproperties property hproperty
    have hmem : property.name ∈ (store.properties id).1.map (·.name) := List.mem_map_of_mem hproperty
    rw [hnames, List.mem_eraseDups] at hmem
    exact comesFrom_of_flags hmem (hflags.trans (hcondenses.flags property.name)) htype

/-- An intersection `⟨18⟩` of an intersection and a record. All three records have `size` and two of them
have `run`, which is a method in one of them only. -/
def stacked : Store :=
  [.record [.readonly "size" Intrinsic.number.id, .method "run" Intrinsic.object.id],
   .record [{ name := "tag", type := Intrinsic.symbol.id },
     { name := "size", type := Intrinsic.string.id }],
   .intersection [⟨14⟩, ⟨15⟩],
   .record [{ name := "run", type := Intrinsic.object.id, flags := { optional := true } },
     { name := "size", type := Intrinsic.string.id }],
   .intersection [⟨16⟩, ⟨17⟩]].foldl (fun store call => (Call.run store call).2) (new defaultProgram)

/-- Listing `⟨18⟩` stores two intersections, one of what the other gives and of the type in the record. -/
theorem properties_stacked :
    stacked.get? ⟨18⟩ = some (.intersection [⟨16⟩, ⟨17⟩]) ∧ stacked.Anchored 3 ⟨18⟩ ∧
    (stacked.properties ⟨18⟩).1 =
      [{ name := "size", type := ⟨20⟩, flags := { readonly := true } },
       { name := "run", type := Intrinsic.object.id, flags := { optional := true } },
       { name := "tag", type := Intrinsic.symbol.id }] ∧
    Extends stacked (stacked.properties ⟨18⟩).2 ∧
    ∃ occurrences, (∀ others, stacked.Occurrences ⟨18⟩ others ↔ others = occurrences) ∧
      (stacked.properties ⟨18⟩).1.map (·.name) = (occurrences.map (·.name)).eraseDups ∧
      (∀ member ∈ [⟨16⟩, ⟨17⟩],
        ((stacked.properties ⟨18⟩).2.properties member).2 = (stacked.properties ⟨18⟩).2) ∧
      ∀ property ∈ (stacked.properties ⟨18⟩).1,
        (stacked.properties ⟨18⟩).2.ComesFrom occurrences
          ([⟨16⟩, ⟨17⟩].flatMap fun member => ((stacked.properties ⟨18⟩).2.properties member).1)
          property := by
  have hget : stacked.get? ⟨18⟩ = some (.intersection [⟨16⟩, ⟨17⟩]) := by decide +kernel
  have hanchored : stacked.Anchored 3 ⟨18⟩ := by decide +kernel
  refine ⟨hget, hanchored, by decide +kernel, ?_⟩
  exact properties_of_nesting stacked ⟨18⟩ [⟨16⟩, ⟨17⟩] hget hanchored.acc
    fun other hreach => hanchored.allocated hreach.to_reflTransGen

namespace Occurrences

theorem object {type : ObjectType} (hget : store.get? id = some (.object type)) :
    store.Occurrences id type.properties := by
  have hdeclared : store.declared id = type.properties := by
    rw [declared, hget]
    rfl
  exact hdeclared ▸ .leaf (by simp [hget])

theorem missing (hget : store.get? id = none) : store.Occurrences id [] := by
  have hdeclared : store.declared id = [] := by
    rw [declared, hget]
    rfl
  exact hdeclared ▸ .leaf (by simp [hget])

theorem pair {first second : TypeId} {occurrences rest : List Property}
    (hget : store.get? id = some (.intersection [first, second])) (hne : second ≠ first)
    (hfirst : store.Occurrences first occurrences) (hsecond : store.Occurrences second rest) :
    store.Occurrences id (occurrences ++ rest) := by
  let lists := fun member => if member = first then occurrences else rest
  have hlists : [first, second].flatMap lists = occurrences ++ rest := by simp [lists, hne]
  rw [← hlists]
  refine .nested hget ?_
  simp [lists, hne, hfirst, hsecond]

end Occurrences

/-- An intersection `⟨19⟩` with a member `⟨20⟩` that has not been allocated. -/
def borrowed : Store :=
  [.record [{ name := "a", type := Intrinsic.number.id }],
   .record [{ name := "b", type := Intrinsic.string.id }],
   .record [{ name := "p", type := ⟨14⟩ }],
   .record [{ name := "p", type := ⟨15⟩ }],
   .intersection [⟨16⟩, ⟨17⟩],
   .intersection [⟨18⟩, ⟨20⟩]].foldl (fun store call => (Call.run store call).2) (new defaultProgram)

/-- Listing the first member allocates `⟨20⟩` for the type of its property, and then lists this type. -/
theorem properties_borrowed :
    borrowed.get? ⟨19⟩ = some (.intersection [⟨18⟩, ⟨20⟩]) ∧
    Acc (fun inner outer => borrowed.Member outer inner) ⟨19⟩ ∧
    borrowed.Occurrences ⟨19⟩ [{ name := "p", type := ⟨14⟩ }, { name := "p", type := ⟨15⟩ }] ∧
    (borrowed.properties ⟨19⟩).1.map (·.name) = ["p", "a", "b"] := by
  have hget : borrowed.get? ⟨19⟩ = some (.intersection [⟨18⟩, ⟨20⟩]) := by decide +kernel
  have hinner : borrowed.get? ⟨18⟩ = some (.intersection [⟨16⟩, ⟨17⟩]) := by decide +kernel
  have hfirst : borrowed.get? ⟨16⟩ =
      some (.object { properties := [{ name := "p", type := ⟨14⟩ }] }) := by decide +kernel
  have hsecond : borrowed.get? ⟨17⟩ =
      some (.object { properties := [{ name := "p", type := ⟨15⟩ }] }) := by decide +kernel
  have hmissing : borrowed.get? ⟨20⟩ = none := by decide +kernel
  have hoccurrences := Occurrences.pair hget (by decide)
    (.pair hinner (by decide) (.object hfirst) (.object hsecond)) (.missing hmissing)
  exact ⟨hget, acc_iff_exists_occurrences.mpr ⟨_, hoccurrences⟩, hoccurrences, by decide +kernel⟩

end Store

end Immutability
