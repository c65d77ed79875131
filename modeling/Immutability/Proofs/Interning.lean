import Immutability.Store.Properties
import Mathlib.Tactic.Common

/-!
# Stores that are in order

Handles are numbers and are given out upwards, so a store is in order if it keeps a type under every
handle below the next one and under no other, and if its table of composites leads to pairwise different
handles with the data of the composite behind them. The handle of a tuple or of a reference enters the
table before its structure is known, and further types may be stored in between: such handles are
unfinished, and nothing is said about the data behind them.
-/

set_option autoImplicit false

namespace Immutability

theorem distinctFrom_eq_eraseDups (seen : Std.TreeSet TypeId) (ids : List TypeId) :
    distinctFrom seen ids = (ids.filter (fun id => !seen.contains id)).eraseDups := by
  induction ids generalizing seen with
  | nil => rfl
  | cons first rest ih =>
    cases hseen : seen.contains first with
    | true => simp [distinctFrom, hseen, ih]
    | false =>
      have hfilter : rest.filter (fun id => !(seen.insert first).contains id) =
          (rest.filter (fun id => !seen.contains id)).filter (fun id => !id == first) := by
        rw [List.filter_filter]
        apply List.filter_congr
        intro id _
        have hcompare : (compare first id == .eq) = (id == first) := by
          rw [Bool.eq_iff_iff, beq_iff_eq, beq_iff_eq, Std.LawfulEqCmp.compare_eq_iff_eq, eq_comm]
        rw [Std.TreeSet.contains_insert, hcompare, Bool.not_or]
      rw [distinctFrom, if_neg (by simp [hseen]), ih, hfilter,
        List.filter_cons_of_pos (by simp [hseen]), List.eraseDups_cons]

/-- Later duplicates are dropped and the others keep their order. -/
theorem distinct_eq_eraseDups (ids : List TypeId) : distinct ids = ids.eraseDups := by
  have hall : ids.filter (fun id => !(∅ : Std.TreeSet TypeId).contains id) = ids := by simp
  rw [distinct, distinctFrom_eq_eraseDups, hall]

def Composite.Fits : Composite → Option StoredType → Prop
  | union members, data => data = some (.union members)
  | intersection members, data => data = some (.intersection members)
  | tuple readonly elements, data => ∃ type : ObjectType, data = some (.object type) ∧
      type.kind = .tuple readonly ∧ type.typeArguments = elements
  | reference _ _, data => ∃ type : ObjectType, data = some (.object type)

namespace Store

variable {store later : Store} {composite other : Composite} {id : TypeId} {data : StoredType}
  {unfinished : List TypeId}

@[simp] theorem nextType_register (store : Store) (data : StoredType) :
    (store.register data).2.nextType = store.nextType.next := rfl

@[simp] theorem nextType_define (store : Store) (id : TypeId) (data : StoredType) :
    (store.define id data).nextType = store.nextType := rfl

@[simp] theorem nextType_intern (store : Store) (composite : Composite) (id : TypeId) :
    (store.intern composite id).nextType = store.nextType := rfl

@[simp] theorem interned?_register (store : Store) (data : StoredType) (composite : Composite) :
    (store.register data).2.interned? composite = store.interned? composite := rfl

@[simp] theorem interned?_define (store : Store) (id : TypeId) (data : StoredType)
    (composite : Composite) : (store.define id data).interned? composite = store.interned? composite :=
  rfl

@[simp] theorem get?_intern (store : Store) (composite : Composite) (id other : TypeId) :
    (store.intern composite id).get? other = store.get? other := rfl

@[simp] theorem interned?_intern (store : Store) (composite other : Composite) (id : TypeId) :
    (store.intern composite id).interned? other =
      if composite = other then some id else store.interned? other := by
  have hcode : composite.code = other.code ↔ composite = other :=
    ⟨Composite.code_injective, congrArg _⟩
  simp [intern, interned?, Std.TreeMap.getElem?_insert, hcode]

/-! ### Growth -/

/-- The later store has given out no fewer handles, and its table of composites has only grown, by
handles that the earlier store had not given out. -/
structure Grows (earlier later : Store) : Prop where
  next_le : earlier.nextType.index ≤ later.nextType.index
  interned_mono : ∀ composite id, earlier.interned? composite = some id →
    later.interned? composite = some id
  interned_new : ∀ composite id, later.interned? composite = some id →
    earlier.interned? composite = some id ∨ earlier.nextType.index ≤ id.index

namespace Grows

theorem refl (store : Store) : Grows store store :=
  ⟨Nat.le_refl _, fun _ _ h => h, fun _ _ h => Or.inl h⟩

theorem trans {first second third : Store} (h : Grows first second) (g : Grows second third) :
    Grows first third where
  next_le := Nat.le_trans h.next_le g.next_le
  interned_mono composite id hid := g.interned_mono composite id (h.interned_mono composite id hid)
  interned_new composite id hid := by
    rcases g.interned_new composite id hid with hold | hnew
    · exact h.interned_new composite id hold
    · exact Or.inr (Nat.le_trans h.next_le hnew)

theorem of_eq (hnext : later.nextType = store.nextType) (hinterned : later.interned = store.interned) :
    Grows store later := by
  refine ⟨Nat.le_of_eq (by rw [hnext]), ?_, ?_⟩
  · intro composite id h
    rw [interned?, hinterned]
    exact h
  · intro composite id h
    rw [interned?, hinterned] at h
    exact Or.inl h

theorem register (store : Store) (data : StoredType) : Grows store (store.register data).2 :=
  ⟨Nat.le_succ _, fun _ _ h => h, fun _ _ h => Or.inl h⟩

theorem define (store : Store) (id : TypeId) (data : StoredType) :
    Grows store (store.define id data) := of_eq rfl rfl

/-- A composite that is new gets the next handle. -/
theorem enroll (hnew : store.interned? composite = none) (data : StoredType) :
    Grows store ((store.register data).2.intern composite store.nextType) := by
  refine ⟨Nat.le_succ _, ?_, ?_⟩
  · intro other id h
    have hne : composite ≠ other := by
      intro he
      rw [he, h] at hnew
      cases hnew
    simpa [hne] using h
  · intro other id h
    by_cases he : composite = other
    · simp only [interned?_intern, he, if_true, Option.some.injEq] at h
      exact Or.inr (Nat.le_of_eq (by rw [h]))
    · exact Or.inl (by simpa [he] using h)

end Grows

/-! ### Order -/

/-- The store keeps types exactly under the handles below the next one, and its table of composites is
one to one and leads to their data, but for the unfinished handles. -/
structure Orderly (store : Store) (unfinished : List TypeId) : Prop where
  stored : ∀ id, (store.get? id).isSome = true ↔ id.index < store.nextType.index
  allocated : ∀ composite id, store.interned? composite = some id →
    id.index < store.nextType.index
  injective : ∀ composite other id, store.interned? composite = some id →
    store.interned? other = some id → composite = other
  fits : ∀ composite id, store.interned? composite = some id → id ∉ unfinished →
    composite.Fits (store.get? id)

namespace Orderly

theorem isSome_register (h : Orderly store unfinished) (data : StoredType) (id : TypeId) :
    ((store.register data).2.get? id).isSome = true ↔ id.index < store.nextType.next.index := by
  have hold := h.stored id
  rw [get?_register, Handle.next]
  by_cases hid : store.nextType = id
  · simp [hid]
  · have hne : id.index ≠ store.nextType.index := fun he => hid (Handle.index_injective he.symm)
    simp only [hid, if_false, hold]
    omega

theorem ne_nextType (h : Orderly store unfinished) (hid : store.interned? composite = some id) :
    store.nextType ≠ id := by
  have := h.allocated composite id hid
  intro he
  rw [he] at this
  exact Nat.lt_irrefl _ this

protected theorem register (h : Orderly store unfinished) (data : StoredType) :
    Orderly (store.register data).2 unfinished where
  stored := h.isSome_register data
  allocated composite id hid := Nat.lt_succ_of_lt (h.allocated composite id hid)
  injective := h.injective
  fits composite id hid hopen := by
    rw [get?_register, if_neg (h.ne_nextType hid)]
    exact h.fits composite id hid hopen

/-- A new composite is stored and enters the table. If its data do not fit yet, its handle counts as
unfinished. -/
theorem enroll (h : Orderly store unfinished) {more : List TypeId}
    (hmore : ∀ id ∈ unfinished, id ∈ more)
    (hfits : store.nextType ∉ more → composite.Fits (some data)) :
    Orderly ((store.register data).2.intern composite store.nextType) more where
  stored := h.isSome_register data
  allocated other id hid := by
    rw [interned?_intern] at hid
    split at hid
    · cases hid
      exact Nat.lt_succ_self _
    · exact Nat.lt_succ_of_lt (h.allocated other id hid)
  injective first second id hfirst hsecond := by
    rw [interned?_intern] at hfirst hsecond
    split at hfirst <;> split at hsecond
    · exact Eq.trans (Eq.symm ‹composite = first›) ‹composite = second›
    · exact absurd (Option.some.inj hfirst) (h.ne_nextType hsecond)
    · exact absurd (Option.some.inj hsecond) (h.ne_nextType hfirst)
    · exact h.injective first second id hfirst hsecond
  fits other id hid hopen := by
    rw [interned?_intern] at hid
    rw [get?_intern, get?_register]
    split at hid
    · next he =>
      cases hid
      rw [← he, if_pos rfl]
      exact hfits hopen
    · rw [if_neg (h.ne_nextType hid)]
      exact h.fits other id hid fun hin => hopen (hmore id hin)

/-- A stored handle is given other data. Unless it counts as unfinished from now on, the data have to fit
the composite it belongs to. -/
protected theorem define {more : List TypeId} (h : Orderly store unfinished)
    (hid : id.index < store.nextType.index)
    (hmore : ∀ other ∈ unfinished, other = id ∨ other ∈ more)
    (hfits : id ∉ more → ∀ composite, store.interned? composite = some id →
      composite.Fits (some data)) : Orderly (store.define id data) more where
  stored other := by
    rw [get?_define]
    by_cases he : id = other
    · subst he
      simpa using hid
    · simp only [he, if_false]
      exact h.stored other
  allocated := h.allocated
  injective := h.injective
  fits composite other hother hopen := by
    rw [get?_define]
    by_cases he : id = other
    · subst he
      rw [if_pos rfl]
      exact hfits hopen composite hother
    · rw [if_neg he]
      apply h.fits composite other hother
      intro hin
      rcases hmore other hin with hsame | hin
      · exact he hsame.symm
      · exact hopen hin

/-- An unfinished composite is finished by giving it data that fit. -/
theorem finish {more : List TypeId} (h : Orderly store unfinished)
    (hmore : ∀ other ∈ unfinished, other = id ∨ other ∈ more)
    (hid : store.interned? composite = some id) (hfits : composite.Fits (some data)) :
    Orderly (store.define id data) more := by
  apply h.define (h.allocated composite id hid) hmore
  intro _ other hother
  rw [← h.injective composite other id hid hother]
  exact hfits

theorem of_eq (h : Orderly store unfinished) (htypes : later.types = store.types)
    (hnext : later.nextType = store.nextType) (hinterned : later.interned = store.interned) :
    Orderly later unfinished where
  stored id := by
    rw [get?, htypes, hnext]
    exact h.stored id
  allocated composite id hid := by
    rw [interned?, hinterned] at hid
    rw [hnext]
    exact h.allocated composite id hid
  injective composite other id hid hother := by
    rw [interned?, hinterned] at hid hother
    exact h.injective composite other id hid hother
  fits composite id hid hopen := by
    rw [interned?, hinterned] at hid
    rw [get?, htypes]
    exact h.fits composite id hid hopen

end Orderly

/-! ### Composites -/

theorem share_of_interned (h : store.interned? composite = some id) (data : StoredType) :
    store.share composite data = (id, store) := by
  simp [share, h]

theorem share_of_new (h : store.interned? composite = none) (data : StoredType) :
    store.share composite data =
      (store.nextType, (store.register data).2.intern composite store.nextType) := by
  simp [share, h, register]

theorem allot_of_interned (h : store.interned? composite = some id) :
    store.allot composite = (id, false, store) := by
  simp [allot, h]

theorem allot_of_new (h : store.interned? composite = none) :
    store.allot composite =
      (store.nextType, true, (store.register .pending).2.intern composite store.nextType) := by
  simp [allot, h, reserve, register]

theorem grows_share (store : Store) (composite : Composite) (data : StoredType) :
    Grows store (store.share composite data).2 := by
  cases h : store.interned? composite with
  | some id => simpa [share_of_interned h] using Grows.refl store
  | none => simpa [share_of_new h] using Grows.enroll h data

theorem Orderly.share (h : Orderly store unfinished) (hfits : composite.Fits (some data)) :
    Orderly (store.share composite data).2 unfinished := by
  cases hc : store.interned? composite with
  | some id => simpa [share_of_interned hc] using h
  | none => simpa [share_of_new hc] using h.enroll (fun _ hid => hid) fun _ => hfits

theorem interned?_share (store : Store) (composite : Composite) (data : StoredType) :
    (store.share composite data).2.interned? composite = some (store.share composite data).1 := by
  cases h : store.interned? composite with
  | some id => simp [share_of_interned h, h]
  | none => simp [share_of_new h]

/-- A union either is trivial and leaves the store alone, or is stored once. -/
theorem union_cases (store : Store) (members : List TypeId) :
    ((store.union members).2 = store ∧ (distinct members).length < 2) ∨
    (store.union members = store.share (.union (distinct members)) (.union (distinct members)) ∧
      2 ≤ (distinct members).length) := by
  unfold union
  rcases distinct members with _ | ⟨first, _ | ⟨second, rest⟩⟩ <;> simp

theorem intersection_cases (store : Store) (members : List TypeId) :
    ((store.intersection members).2 = store ∧ (distinct members).length < 2) ∨
    (store.intersection members =
        store.share (.intersection (distinct members)) (.intersection (distinct members)) ∧
      2 ≤ (distinct members).length) := by
  unfold intersection
  rcases distinct members with _ | ⟨first, _ | ⟨second, rest⟩⟩ <;> simp

theorem grows_union (store : Store) (members : List TypeId) :
    Grows store (store.union members).2 := by
  rcases store.union_cases members with ⟨h, _⟩ | ⟨h, _⟩ <;> rw [h]
  · exact Grows.refl store
  · exact grows_share _ _ _

theorem grows_intersection (store : Store) (members : List TypeId) :
    Grows store (store.intersection members).2 := by
  rcases store.intersection_cases members with ⟨h, _⟩ | ⟨h, _⟩ <;> rw [h]
  · exact Grows.refl store
  · exact grows_share _ _ _

theorem Orderly.union (h : Orderly store unfinished) (members : List TypeId) :
    Orderly (store.union members).2 unfinished := by
  rcases store.union_cases members with ⟨he, _⟩ | ⟨he, _⟩ <;> rw [he]
  · exact h
  · exact h.share rfl

theorem Orderly.intersection (h : Orderly store unfinished) (members : List TypeId) :
    Orderly (store.intersection members).2 unfinished := by
  rcases store.intersection_cases members with ⟨he, _⟩ | ⟨he, _⟩ <;> rw [he]
  · exact h
  · exact h.share rfl

/-! ### Listing properties

Listing the properties of a type does nothing to a store but build intersections. -/

section Listing

variable {Holds : Store → Prop}

theorem closeMerge_keeps
    (hmeet : ∀ store members, Holds store → Holds (intersection store members).2)
    (entries : List (String × MergedProperty)) (store : Store) (h : Holds store) :
    Holds (store.closeMerge entries).2 := by
  induction entries generalizing store with
  | nil => exact h
  | cons entry rest ih => exact ih _ (hmeet store entry.2.types h)

/-- Whatever building an intersection keeps, listing properties keeps. -/
theorem propertiesWithin_keeps (Holds : Store → Prop)
    (hmeet : ∀ store members, Holds store → Holds (intersection store members).2)
    {depth : Nat} {store : Store} {id : TypeId} (h : Holds store) :
    Holds (propertiesWithin depth store id).2 := by
  induction depth generalizing store id with
  | zero => exact h
  | succ depth ih =>
    unfold propertiesWithin
    split
    · exact h
    · next members hget =>
      clear hget
      apply closeMerge_keeps hmeet
      -- the properties merged so far do not matter, only the store that is passed along
      generalize ({} : PropertyMerge) = merge
      induction members generalizing merge store with
      | nil => exact h
      | cons member rest ihrest => exact ihrest (ih h) _
    · exact h

end Listing

theorem grows_properties (store : Store) (id : TypeId) : Grows store (store.properties id).2 :=
  propertiesWithin_keeps (Grows store) (fun _ _ h => h.trans (grows_intersection _ _))
    (Grows.refl store)

theorem Orderly.properties (h : Orderly store unfinished) (id : TypeId) :
    Orderly (store.properties id).2 unfinished :=
  propertiesWithin_keeps (Orderly · unfinished) (fun _ members h => h.intersection members) h

/-! ### New stores -/

theorem mem_intrinsicTypes (id : TypeId) : id ∈ intrinsicTypes ↔ id.index < firstType.index := by
  obtain ⟨index⟩ := id
  simp only [intrinsicTypes, Intrinsic.all, Intrinsic.id, errorType, firstType, List.foldl_cons,
    List.foldl_nil, Std.TreeMap.mem_insert, Std.LawfulEqCmp.compare_eq_iff_eq, Handle.mk.injEq,
    Std.TreeMap.not_mem_emptyc, or_false]
  omega

theorem orderly_new (program : Program) : Orderly (new program) [] where
  stored id := by
    have hget : (new program).get? id =
        if firstType = id then some (.object { callable := true }) else intrinsicTypes[id]? := by
      simp [new, function, register, addFile, get?, Std.TreeMap.getElem?_insert]
    have hnext : (new program).nextType.index = firstType.index + 1 := rfl
    rw [hget, hnext]
    by_cases hid : firstType = id
    · simp [← hid]
    · have hne : id.index ≠ firstType.index := fun he => hid (Handle.index_injective he.symm)
      rw [if_neg hid, Std.TreeMap.isSome_getElem?_iff_mem, mem_intrinsicTypes id]
      omega
  allocated _ _ h := by simp [new, function, register, addFile, interned?] at h
  injective _ _ _ h := by simp [new, function, register, addFile, interned?] at h
  fits _ _ h := by simp [new, function, register, addFile, interned?] at h

end Store

end Immutability
