import Immutability.Proofs.DivergedStores
import Immutability.Proofs.MirroredStores

/-!
# Pruning a store

A store may hold types that are part of themselves, types that mention handles not given out, and places
with two types. A request for a type does not come to them if none of them is below the type. To say so,
all that is not below the type is cut away, but for the intersections of what is left: the pruned store
is regular and mirrors the store, so the request comes to the verdict that the type has in the pruned
store.
-/

set_option autoImplicit false

namespace Immutability

open Relation (ReflTransGen TransGen)

@[simp] theorem StoredType.parts_core (data : StoredType) : data.core.parts = data.parts := by
  cases data <;> rfl

@[simp] theorem StoredType.branches_core (data : StoredType) : data.core.branches = data.branches := by
  cases data <;> rfl

namespace Store

/-- What holds of the handles and the table of a store even if types were redefined: handles that were
given out lead to types, and composites lead to pairwise different handles. Intersections are what the
table says. -/
structure Tidy (store : Store) : Prop where
  intrinsic : firstType.index ≤ store.nextType.index
  stored : ∀ id, store.Allocated id → store.get? id ≠ none
  allocated : ∀ composite id, store.interned? composite = some id → store.Allocated id
  injective : ∀ composite other id, store.interned? composite = some id →
    store.interned? other = some id → composite = other
  tabled : store.Tabled

def Below (store : Store) (roots : List TypeId) (id : TypeId) : Prop :=
  ∃ root ∈ roots, ReflTransGen (Linked StoredType.parts store) root id

def BranchBelow (store : Store) (roots : List TypeId) (ref : TypeRef) : Prop :=
  ∃ id data, store.Below roots id ∧ store.get? id = some data ∧ ref ∈ data.branches

/-- Below the roots there are only types that the store has, no type is part of itself and every place is
of one type. Intersections are of types that the store has. -/
structure Clear (store : Store) (roots : List TypeId) : Prop where
  allocated : ∀ id, store.Below roots id → store.Allocated id
  meets : ∀ members id, store.interned? (.intersection members) = some id →
    ∀ member ∈ members, store.Allocated member
  acyclic : ∀ id, store.Below roots id → ¬ TransGen (Linked StoredType.parts store) id id
  placed : ∀ one two, store.BranchBelow roots one → store.BranchBelow roots two →
    one.node = two.node → one.node ≠ none → one.id = two.id

/-- What is left of a store: the types below the roots and the intersections of what is left. -/
inductive Kept (store : Store) (roots : List TypeId) : TypeId → Prop where
  | reached {id : TypeId} : store.Below roots id → Kept store roots id
  | meet {members : List TypeId} {id : TypeId} : (∀ member ∈ members, Kept store roots member) →
      store.interned? (.intersection members) = some id → Kept store roots id

open Classical in
/-- The store without what is not kept. Cut types leave the error type behind. -/
noncomputable def pruned (store : Store) (roots : List TypeId) : Store :=
  { store with
    types := store.types.filterMap fun id data =>
      if store.Allocated id then some (if store.Kept roots id then data.core else .error) else none
    aliases := ∅
    interned := store.interned.filter fun _ id => store.Kept roots id }

variable {store : Store} {roots : List TypeId} {id child : TypeId} {data : StoredType}

theorem Below.of_mem (h : id ∈ roots) : store.Below roots id := ⟨id, h, .refl⟩

theorem Below.part (h : store.Below roots id) (hlink : Linked StoredType.parts store id child) :
    store.Below roots child := by
  obtain ⟨root, hroot, hreach⟩ := h
  exact ⟨root, hroot, hreach.tail hlink⟩

/-- Nothing comes up below a type but what comes up below its parts. -/
theorem Below.cases_cons (hget : store.get? id = some data)
    (hparts : ∀ part ∈ data.parts, store.Below roots part) {other : TypeId}
    (h : store.Below (id :: roots) other) : other = id ∨ store.Below roots other := by
  obtain ⟨root, hroot, hreach⟩ := h
  rcases List.mem_cons.mp hroot with rfl | hroot
  · rcases hreach.cases_head with rfl | ⟨part, ⟨found, hfound, hpart⟩, hrest⟩
    · exact Or.inl rfl
    · cases hget.symm.trans hfound
      obtain ⟨lower, hlower, hdown⟩ := hparts part hpart
      exact Or.inr ⟨lower, hlower, hdown.trans hrest⟩
  · exact Or.inr ⟨root, hroot, hreach⟩

/-- A type that is made of clear types and is no choice is clear. -/
theorem Clear.cons (h : store.Clear roots) (hid : store.Allocated id) (hget : store.get? id = some data)
    (hparts : ∀ part ∈ data.parts, store.Below roots part) (hbranches : data.branches = []) :
    store.Clear (id :: roots) where
  allocated other hother := by
    rcases hother.cases_cons hget hparts with rfl | hold
    · exact hid
    · exact h.allocated other hold
  meets := h.meets
  acyclic other hother hcycle := by
    rcases hother.cases_cons hget hparts with rfl | hold
    · -- the cycle comes back to the type from one of its parts, so the type was below the roots
      obtain ⟨part, ⟨found, hfound, hpart⟩, hback⟩ := TransGen.head'_iff.mp hcycle
      cases hget.symm.trans hfound
      obtain ⟨root, hroot, hdown⟩ := hparts part hpart
      exact h.acyclic other ⟨root, hroot, hdown.trans hback⟩ hcycle
    · exact h.acyclic other hold hcycle
  placed := by
    have hbranch : ∀ ref, store.BranchBelow (id :: roots) ref → store.BranchBelow roots ref := by
      rintro ref ⟨other, found, hother, hfound, href⟩
      rcases hother.cases_cons hget hparts with rfl | hold
      · cases hget.symm.trans hfound
        rw [hbranches] at href
        cases href
      · exact ⟨other, found, hold, hfound, href⟩
    exact fun one two hone htwo => h.placed one two (hbranch one hone) (hbranch two htwo)

section Pruned

open Classical in
theorem get?_pruned (store : Store) (roots : List TypeId) (id : TypeId) :
    (store.pruned roots).get? id = (store.get? id).bind fun data =>
      if store.Allocated id then some (if store.Kept roots id then data.core else .error) else none :=
  Std.TreeMap.getElem?_filterMap'

open Classical in
theorem interned?_pruned (store : Store) (roots : List TypeId) (composite : Composite) :
    (store.pruned roots).interned? composite =
      (store.interned? composite).filter fun id => store.Kept roots id :=
  Std.TreeMap.getElem?_filter'

open Classical in
theorem interned?_of_pruned {composite : Composite}
    (h : (store.pruned roots).interned? composite = some id) :
    store.interned? composite = some id ∧ store.Kept roots id := by
  rw [interned?_pruned, Option.filter_eq_some_iff] at h
  exact ⟨h.1, of_decide_eq_true h.2⟩

/-- What stands in the pruned store is kept with its data or was cut. -/
theorem get?_of_pruned (h : (store.pruned roots).get? id = some data) :
    store.Allocated id ∧
      ((∃ source, store.Kept roots id ∧ store.get? id = some source ∧ data = source.core) ∨
        data = .error) := by
  rw [get?_pruned, Option.bind_eq_some_iff] at h
  obtain ⟨source, hsource, h⟩ := h
  by_cases hid : store.Allocated id
  · rw [if_pos hid] at h
    refine ⟨hid, ?_⟩
    by_cases hkept : store.Kept roots id
    · rw [if_pos hkept] at h
      exact Or.inl ⟨source, hkept, hsource, (Option.some.inj h).symm⟩
    · rw [if_neg hkept] at h
      exact Or.inr (Option.some.inj h).symm
  · rw [if_neg hid] at h
    cases h

theorem Kept.part (h : store.Kept roots id) (htabled : store.Tabled)
    (hlink : Linked StoredType.parts store id child) : store.Kept roots child := by
  cases h with
  | reached hbelow => exact .reached (hbelow.part hlink)
  | meet hmembers hid =>
    obtain ⟨data, hget, hchild⟩ := hlink
    rw [htabled _ id hid] at hget
    cases hget
    exact hmembers child hchild

theorem orderly_pruned (htidy : store.Tidy) (roots : List TypeId) :
    Orderly (store.pruned roots) ((List.range store.nextType.index).map Handle.mk) where
  stored id := by
    rw [get?_pruned]
    change _ ↔ store.Allocated id
    by_cases hid : store.Allocated id
    · obtain ⟨data, hget⟩ := Option.ne_none_iff_exists'.mp (htidy.stored id hid)
      simp [hget, hid]
    · simp [hid]
  allocated composite id hid := htidy.allocated composite id (interned?_of_pruned hid).1
  injective composite other id hid hother :=
    htidy.injective composite other id (interned?_of_pruned hid).1 (interned?_of_pruned hother).1
  -- all handles count as unfinished, so that cut types need not fit
  fits composite id hid hopen := by
    have hallocated := htidy.allocated composite id (interned?_of_pruned hid).1
    exact absurd (List.mem_map.mpr ⟨id.index, List.mem_range.mpr hallocated, rfl⟩) hopen

variable (htidy : store.Tidy) (hclear : store.Clear roots)
include htidy hclear

theorem Kept.allocated (h : store.Kept roots id) : store.Allocated id := by
  cases h with
  | reached hbelow => exact hclear.allocated id hbelow
  | meet _ hid => exact htidy.allocated _ id hid

theorem get?_of_kept (h : store.Kept roots id) :
    (store.pruned roots).get? id = (store.get? id).map StoredType.core := by
  have hallocated := h.allocated htidy hclear
  rw [get?_pruned]
  simp only [if_pos hallocated, if_pos h]
  cases store.get? id <;> rfl

/-- Links from kept types were there before. -/
theorem Kept.linked (h : store.Kept roots id)
    (hlink : Linked StoredType.parts (store.pruned roots) id child) :
    Linked StoredType.parts store id child := by
  obtain ⟨data, hget, hchild⟩ := hlink
  rw [get?_of_kept htidy hclear h, Option.map_eq_some_iff] at hget
  obtain ⟨source, hsource, rfl⟩ := hget
  exact ⟨source, hsource, source.parts_core ▸ hchild⟩

theorem Kept.transGen (h : store.Kept roots id)
    (hchain : TransGen (Linked StoredType.parts (store.pruned roots)) id child) :
    TransGen (Linked StoredType.parts store) id child ∧ store.Kept roots child := by
  induction hchain with
  | single hlink =>
    have hlink := h.linked htidy hclear hlink
    exact ⟨.single hlink, h.part htidy.tabled hlink⟩
  | tail _ hlink ih =>
    obtain ⟨hchain, hmiddle⟩ := ih
    have hlink := hmiddle.linked htidy hclear hlink
    exact ⟨hchain.tail hlink, hmiddle.part htidy.tabled hlink⟩

/-- A cycle through a type below the roots was there before, and one through a kept intersection leads
through one of its members. -/
theorem Kept.acyclic (h : store.Kept roots id) :
    ¬ TransGen (Linked StoredType.parts (store.pruned roots)) id id := by
  induction h with
  | @reached id hbelow =>
    intro hcycle
    exact hclear.acyclic id hbelow (Kept.transGen htidy hclear (.reached hbelow) hcycle).1
  | @meet members id hmembers hid ih =>
    intro hcycle
    obtain ⟨member, hlink, hback⟩ := TransGen.head'_iff.mp hcycle
    obtain ⟨data, hget, hmember⟩ := Kept.linked htidy hclear (.meet hmembers hid) hlink
    rw [htidy.tabled _ id hid] at hget
    cases hget
    exact ih member hmember (TransGen.tail' hback hlink)

theorem acyclic_pruned : (store.pruned roots).Acyclic := by
  intro id hcycle
  have hkept : store.Kept roots id := by
    obtain ⟨_, ⟨data, hget, hchild⟩, _⟩ := TransGen.head'_iff.mp hcycle
    rcases (get?_of_pruned hget).2 with ⟨_, hkept, _, _⟩ | rfl
    · exact hkept
    · cases hchild
  exact hkept.acyclic htidy hclear hcycle

theorem whole_pruned : (store.pruned roots).Whole where
  orderly := ⟨_, orderly_pruned htidy roots⟩
  intrinsic := htidy.intrinsic
  closed := by
    constructor
    · intro id data hget other hother
      rcases (get?_of_pruned hget).2 with ⟨source, hkept, hsource, rfl⟩ | rfl
      · have hparts : ∀ part ∈ source.parts, store.Allocated part := fun part hpart =>
          (hkept.part htidy.tabled ⟨source, hsource, hpart⟩).allocated htidy hclear
        cases source with
        | conditional type =>
          have hnever : store.Allocated Intrinsic.never.id :=
            Nat.lt_of_lt_of_le (by decide) htidy.intrinsic
          simp only [StoredType.parts, List.forall_mem_cons] at hparts
          simp only [StoredType.core, StoredType.mentions, List.mem_cons, List.not_mem_nil,
            or_false] at hother
          rcases hother with rfl | rfl | rfl | rfl
          · exact hnever
          · exact hnever
          · exact hparts.1
          · exact hparts.2.1
        | _ => exact hparts other hother
      · cases hother
    · intro id found hfound
      simp [pruned, aliasOf?] at hfound
  acyclic id hcycle := by
    apply acyclic_pruned htidy hclear id
    refine hcycle.lift (fun other => other) fun parent child => ?_
    rintro ⟨data, hget, hchild⟩
    refine ⟨data, hget, ?_⟩
    cases data with
    | intersection members => exact hchild
    | _ => cases hchild

theorem regular_pruned : (store.pruned roots).Regular where
  whole := whole_pruned htidy hclear
  tabled members id hid := by
    obtain ⟨hid, hkept⟩ := interned?_of_pruned hid
    rw [get?_of_kept htidy hclear hkept, htidy.tabled members id hid]
    rfl
  acyclic := acyclic_pruned htidy hclear
  placed := by
    have hbranch : ∀ ref ∈ (store.pruned roots).branches, store.BranchBelow roots ref := by
      intro ref href
      obtain ⟨id, data, hget, href⟩ := (whole_pruned htidy hclear).mem_branches.mp href
      rcases (get?_of_pruned hget).2 with ⟨source, hkept, hsource, rfl⟩ | rfl
      · rw [StoredType.branches_core] at href
        cases hkept with
        | reached hbelow => exact ⟨id, source, hbelow, hsource, href⟩
        | meet _ hid =>
          rw [htidy.tabled _ id hid] at hsource
          cases hsource
          cases href
      · cases href
    exact fun one hone two htwo => hclear.placed one two (hbranch one hone) (hbranch two htwo)

theorem mirrors_pruned :
    Mirrors (fun id => store.Kept roots id ∨ ¬ store.Allocated id) store (store.pruned roots) where
  next := rfl
  fresh _ hid := Or.inr hid
  data id hid := by
    obtain ⟨hkept | hnew, hallocated⟩ := hid
    · exact get?_of_kept htidy hclear hkept
    · exact absurd hallocated hnew
  parts parent child hparent hlink := by
    obtain ⟨hkept | hnew, hallocated⟩ := hparent
    · have hchild := hkept.part htidy.tabled hlink
      exact ⟨Or.inl hchild, hchild.allocated htidy hclear⟩
    · exact absurd hallocated hnew
  table members hmembers := by
    rw [interned?_pruned]
    cases hid : store.interned? (.intersection members) with
    | none => rfl
    | some id =>
      have hkept : store.Kept roots id := .meet (fun member hmember =>
        (hmembers member hmember).resolve_right (not_not.mpr (hclear.meets _ _ hid member hmember))) hid
      simp [hkept]
  meets members id hmembers hid :=
    Or.inl (.meet (fun member hmember => (hmembers member hmember).resolve_right
      (not_not.mpr (hclear.meets _ _ hid member hmember))) hid)
  stored id hid hnone := by
    rw [get?_pruned, hnone] at hid
    exact hid rfl
  whole := whole_pruned htidy hclear

end Pruned

/-- A request without rules for the type ends with the verdict. -/
def ClassifiedAs (store : Store) (id : TypeId) (verdict : Verdict) : Prop :=
  ∀ journal : Journal, ∃ steps answer,
    Machine.run host [] steps { id } .immutable { state := store, journal } = .ok answer ∧
      answer.status = .settled verdict

/-- A request for a type below which all is clear ends with its verdict in the pruned store. -/
theorem Clear.answers (hclear : store.Clear roots) (htidy : store.Tidy) (hid : store.Below roots id) :
    store.ClassifiedAs id ((regular_pruned htidy hclear).verdict id) := by
  intro journal
  have hallocated := hclear.allocated id hid
  obtain ⟨steps, answer, hrun, hstatus⟩ :=
    (regular_pruned htidy hclear).exists_run_store .refl hallocated journal
  have hsame := Machine.outcome_of_mirrors ownIdentity { state := store, journal }
    { state := store.pruned roots, journal } { id } .immutable (mirrors_pruned htidy hclear) rfl
    ⟨Or.inl (.reached hid), hallocated⟩ steps
  obtain ⟨other, hother, houtcome⟩ := Machine.exists_ok_of_outcome hsame hrun
  refine ⟨steps, other, hother, ?_⟩
  rw [← hstatus]
  exact congrArg Prod.fst houtcome

/-! ### Telling that all is clear -/

/-- Each type of the list is made of types that come after it. -/
def Sinks (store : Store) : List TypeId → Prop
  | [] => True
  | id :: rest =>
    (∀ part ∈ ((store.get? id).map StoredType.parts).getD [], part ∈ rest) ∧ store.Sinks rest

instance decidableSinks (store : Store) : (order : List TypeId) → Decidable (store.Sinks order)
  | [] => .isTrue trivial
  | _ :: rest =>
    have := decidableSinks store rest
    inferInstanceAs (Decidable ((∀ part ∈ _, part ∈ rest) ∧ store.Sinks rest))

namespace Sinks

variable {order : List TypeId}

theorem mem_of_linked (h : store.Sinks order) (hid : id ∈ order)
    (hlink : Linked StoredType.parts store id child) : child ∈ order := by
  induction order with
  | nil => cases hid
  | cons first rest ih =>
    obtain ⟨hparts, hrest⟩ := h
    apply List.mem_cons_of_mem
    rcases List.mem_cons.mp hid with rfl | hid
    · obtain ⟨data, hget, hchild⟩ := hlink
      rw [hget] at hparts
      exact hparts child hchild
    · exact ih hrest hid

theorem mem_of_reach (h : store.Sinks order) (hid : id ∈ order)
    (hreach : ReflTransGen (Linked StoredType.parts store) id child) : child ∈ order := by
  induction hreach with
  | refl => exact hid
  | tail _ hlink ih => exact h.mem_of_linked ih hlink

theorem acyclic (h : store.Sinks order) (hid : id ∈ order) :
    ¬ TransGen (Linked StoredType.parts store) id id := by
  induction order with
  | nil => cases hid
  | cons first rest ih =>
    obtain ⟨hparts, hrest⟩ := h
    intro hcycle
    rcases List.mem_cons.mp hid with rfl | hid
    · -- the cycle leaves the first type of the list and stays among the others
      obtain ⟨part, ⟨data, hget, hpart⟩, hback⟩ := TransGen.head'_iff.mp hcycle
      rw [hget] at hparts
      exact ih hrest (mem_of_reach hrest (hparts part hpart) hback) hcycle
    · exact ih hrest hid hcycle

theorem mem_of_below (h : store.Sinks order) (hroots : ∀ root ∈ roots, root ∈ order)
    (hid : store.Below roots id) : id ∈ order := by
  obtain ⟨root, hroot, hreach⟩ := hid
  exact h.mem_of_reach (hroots root hroot) hreach

theorem clear (h : store.Sinks order) (hroots : ∀ root ∈ roots, root ∈ order)
    (hallocated : ∀ id ∈ order, store.Allocated id)
    (hmeets : ∀ code ∈ store.interned.keys, code.head? = some 1 →
      ∀ index ∈ code.tail, index < store.nextType.index)
    (hplaced : ∀ one ∈ order.flatMap fun id => ((store.get? id).map StoredType.branches).getD [],
      ∀ two ∈ order.flatMap fun id => ((store.get? id).map StoredType.branches).getD [],
      one.node = two.node → one.node ≠ none → one.id = two.id) : store.Clear roots where
  allocated id hid := hallocated id (h.mem_of_below hroots hid)
  meets members id hid member hmember := by
    have hkey : (Composite.intersection members).code ∈ store.interned.keys := by
      rw [Std.TreeMap.mem_keys, ← Std.TreeMap.isSome_getElem?_iff_mem]
      exact Option.isSome_of_mem hid
    exact hmeets _ hkey rfl member.index (List.mem_map_of_mem hmember)
  acyclic id hid := h.acyclic (h.mem_of_below hroots hid)
  placed := by
    have hbranch : ∀ ref, store.BranchBelow roots ref →
        ref ∈ order.flatMap fun id => ((store.get? id).map StoredType.branches).getD [] := by
      rintro ref ⟨id, data, hid, hget, href⟩
      refine List.mem_flatMap.mpr ⟨id, h.mem_of_below hroots hid, ?_⟩
      rw [hget]
      exact href
    exact fun one two hone htwo => hplaced one (hbranch one hone) two (hbranch two htwo)

end Sinks

end Store

end Immutability
