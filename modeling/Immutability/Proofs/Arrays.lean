import Immutability.Proofs.Bounds
import Immutability.Proofs.StoreUpkeep

/-!
# Arrays and tuples

A writable array or tuple is mutable, whatever it holds. The methods of a read-only one leave it read-only
in depth at most, and its elements, which come up as type arguments, as index values and in tuples as
properties, lower it to the least of them, but not below read-only on the surface.
-/

set_option autoImplicit false

namespace Immutability

/-- What a read-only array or tuple comes to with elements of which this is the least verdict. -/
def Verdict.sheltered (verdict : Verdict) : Verdict :=
  (known .readonlyShallow).join ((known .readonlyDeep).meet verdict)

theorem Verdict.known_sheltered (verdict : Verdict) :
    verdict.sheltered = known (max .readonlyShallow (Level.readonlyDeep.cap verdict)) := by
  rw [sheltered, known_meet, join]

namespace Store

variable {store later : Store} {id : TypeId} {roots : List TypeId}

/-! ### Verdicts in a regular store -/

namespace Regular

variable (h : store.Regular)

noncomputable abbrev graph : TypeGraph := (store.completion h.whole).limit ownIdentity

theorem reflects_graph : h.graph.Reflects ownIdentity store :=
  (store.completion h.whole).reflects_limit ownIdentity 0

theorem verdict_structural (hid : store.Allocated id) :
    h.verdict id = h.graph.structural (h.graph.verdict []) id :=
  TypeGraph.verdict_nil (h.acc hid none)

theorem verdict_intrinsic {kind : Intrinsic} (hget : store.get? id = some (.intrinsic kind)) :
    h.verdict id = .known .immutable := by
  have hid := h.whole.allocated_of_get? hget
  have hshape : store.shape id = .primitive := by rw [shape, hget]
  rw [h.verdict_structural hid, TypeGraph.structural, h.reflects_graph.shape id hid, hshape]

theorem verdict_union {members : List TypeId} (hget : store.get? id = some (.union members)) :
    h.verdict id = .meetAll (members.map h.verdict) := by
  have hid := h.whole.allocated_of_get? hget
  have hshape : store.shape id = .union members := by rw [shape, hget]
  rw [h.verdict_structural hid, TypeGraph.structural, h.reflects_graph.shape id hid, hshape]
  simp only [bare, List.map_map]
  rfl

section Objects

variable {type : ObjectType} (hget : store.get? id = some (.object type))
include hget

theorem properties_object : h.graph.properties id = type.properties :=
  h.reflects_graph.properties id _ (.plain hget nofun)

theorem verdict_object :
    h.verdict id = if type.properties.isEmpty && type.callable then .known .immutable else
      match type.kind with
      | .tuple false => .known .mutable
      | .tuple true => .known (h.graph.surfaceLevel (h.graph.verdict []) .immutable id true [id])
      | .array | .plain =>
        .known (h.graph.surfaceLevel (h.graph.verdict []) .immutable id false [id]) := by
  have hid := h.whole.allocated_of_get? hget
  have hshape : store.shape id = .object type.kind := by rw [shape, hget]
  have hcallable : store.callable id = type.callable := by rw [callable, callableWithin, hget]
  have hfunction : ((h.graph.properties id).isEmpty && h.graph.callable id) =
      (type.properties.isEmpty && type.callable) := by
    rw [h.properties_object hget, h.reflects_graph.callable id hid, hcallable]
  rw [h.verdict_structural hid, TypeGraph.structural, h.reflects_graph.shape id hid, hshape]
  exact hfunction ▸ rfl

variable {isTuple : Bool}

/-- What can be assigned makes an object mutable. -/
theorem surfaceLevel_writable (hwritable : type.properties.any (Property.writable isTuple) = true) :
    h.graph.surfaceLevel (h.graph.verdict []) .immutable id isTuple [id] = .mutable := by
  rw [TypeGraph.surfaceLevel, h.properties_object hget, if_pos hwritable]

/-- The level of a read-only object with methods whose properties and index values are not below its type
arguments. -/
theorem surfaceLevel_crate (hnonempty : type.properties.isEmpty = false)
    (hwritable : type.properties.any (Property.writable isTuple) = false)
    (hmethods : Property.methodBound isTuple type.properties = .readonlyDeep)
    (hreference : type.isReference = true)
    (hproperties : ∀ property ∈ type.properties,
      (Verdict.known .readonlyDeep).meet (.meetAll (type.typeArguments.map h.verdict)) ≤
        h.verdict property.type)
    (hindex : ∀ kind signature, type.index kind = some signature → signature.readonly = true ∧
      (Verdict.known .readonlyDeep).meet (.meetAll (type.typeArguments.map h.verdict)) ≤
        h.verdict signature.value) :
    h.graph.surfaceLevel (h.graph.verdict []) .immutable id isTuple [id] =
      max .readonlyShallow (Level.readonlyDeep.cap (.meetAll (type.typeArguments.map h.verdict))) := by
  have hid := h.whole.allocated_of_get? hget
  have hobject : store.object? id = some type := by rw [object?, hget]
  have harguments : h.graph.argumentBound (h.graph.verdict []) id =
      .meetAll (type.typeArguments.map h.verdict) := by
    rw [TypeGraph.argumentBound, h.reflects_graph.isReference id hid, isReference, hobject,
      h.reflects_graph.typeArguments id hid, typeArguments, hobject]
    dsimp only [Option.any_some]
    rw [if_pos hreference, bare, List.map_map]
    rfl
  have hvalue : ∀ kind,
      (Verdict.known .readonlyDeep).meet (.meetAll (type.typeArguments.map h.verdict)) ≤
        h.graph.indexBound (h.graph.verdict []) kind [id] := by
    intro kind
    apply Verdict.le_joinAll
    intro verdict hverdict
    cases List.mem_singleton.mp hverdict
    rw [TypeGraph.indexVerdict, h.reflects_graph.indexSignature id kind hid, indexSignature, hobject]
    dsimp only [Option.bind_some]
    cases hsignature : type.index kind with
    | none => exact Verdict.le_unknown _
    | some signature =>
      obtain ⟨hreadonly, hle⟩ := hindex kind signature hsignature
      simp only [hreadonly, Bool.not_true, Bool.false_eq_true, if_false]
      split
      · exact (Verdict.meet_le_left _ _).trans (Verdict.known_le_known.mpr (Level.le_immutable _))
      · exact hle.trans (Verdict.le_raise _)
  have hbound : h.graph.surfaceBound (h.graph.verdict []) id isTuple [id] =
      .known (Level.readonlyDeep.cap (.meetAll (type.typeArguments.map h.verdict))) := by
    rw [← Verdict.known_meet, TypeGraph.surfaceBound, h.properties_object hget, hmethods, harguments]
    apply Verdict.le_antisymm
    · exact Verdict.le_meet (Verdict.meetAll_le (by simp)) (Verdict.meetAll_le (by simp))
    · apply Verdict.le_meetAll
      simp only [List.forall_mem_cons]
      refine ⟨Verdict.meet_le_left _ _, ?_, Verdict.meet_le_right _ _, hvalue .string, hvalue .number,
        List.forall_mem_nil _⟩
      apply Verdict.le_meetAll
      intro verdict hverdict
      rw [bare, List.map_map, List.map_map] at hverdict
      obtain ⟨property, hproperty, rfl⟩ := List.mem_map.mp hverdict
      exact hproperties property hproperty
  rw [TypeGraph.surfaceLevel, h.properties_object hget, hwritable, hnonempty, hbound]
  exact congrArg (max _) (min_eq_right (Level.le_immutable _))

end Objects

end Regular

/-! ### Properties of arrays and tuples -/

/-- The types that are built into arrays and tuples are as the store was made with them. -/
structure Equipped (store : Store) : Prop where
  number : store.get? Intrinsic.number.id = some (.intrinsic .number)
  never : store.get? Intrinsic.never.id = some (.intrinsic .never)
  method : store.get? store.methodType = some (.object { callable := true })

theorem type_of_mem_listMethods {readonly : Bool} {property : Property}
    (hproperty : property ∈ store.listMethods readonly) :
    property = .method property.name store.methodType := by
  obtain ⟨name, _, rfl⟩ := List.mem_map.mp hproperty
  rfl

/-- A property of a tuple is an element, its length or a method. -/
theorem cases_of_mem_tupleProperties {readonly : Bool} {elements : List TypeId} {union : TypeId}
    {property : Property} (h : property ∈ (store.tupleType readonly elements union).properties) :
    (property.flags.readonly = readonly ∧ property.type ∈ elements) ∨
      (property.name = "length" ∧ property.type = Intrinsic.number.id) ∨
      property ∈ store.listMethods readonly := by
  rcases List.mem_append.mp h with helement | hfixed
  · obtain ⟨place, hplace, rfl⟩ := List.mem_mapIdx.mp helement
    exact Or.inl ⟨rfl, List.getElem_mem hplace⟩
  · rcases List.mem_cons.mp hfixed with rfl | hmember
    · exact Or.inr (Or.inl ⟨rfl, rfl⟩)
    · exact Or.inr (Or.inr hmember)

theorem not_writable_of_method (isTuple : Bool) (name : String) (type : TypeId) :
    (Property.method name type).writable isTuple = false := by
  simp [Property.writable, Property.method]

/-- The methods of a read-only list leave it read-only in depth. -/
theorem methodBound_of_listMethods (isTuple : Bool) {properties : List Property}
    (hmethods : store.listMethods true ⊆ properties) :
    Property.methodBound isTuple properties = .readonlyDeep := by
  have hconcat : Property.method "concat" store.methodType ∈ store.listMethods true :=
    List.mem_map_of_mem List.mem_cons_self
  apply if_pos
  rw [List.any_eq_true]
  refine ⟨_, hmethods hconcat, ?_⟩
  cases isTuple <;> rfl

namespace Regular

variable (h : store.Regular) (hequipped : store.Equipped)
include hequipped

theorem verdict_method : h.verdict store.methodType = .known .immutable :=
  h.verdict_object hequipped.method

/-- Methods and the length of a list never lower it. -/
theorem le_verdict_fixed {bound : Verdict} (hbound : bound ≤ .known .readonlyDeep) :
    bound ≤ h.verdict Intrinsic.number.id ∧ bound ≤ h.verdict store.methodType := by
  have hdeep : bound ≤ .known .immutable :=
    hbound.trans (Verdict.known_le_known.mpr (Level.le_immutable _))
  rw [h.verdict_intrinsic hequipped.number, h.verdict_method hequipped]
  exact ⟨hdeep, hdeep⟩

/-! ### Arrays -/

theorem verdict_array {symbol : SymbolId} {readonly : Bool} {element : TypeId}
    (hget : store.get? id = some (.object (store.arrayType symbol readonly element))) :
    h.verdict id = if readonly then (h.verdict element).sheltered else .known .mutable := by
  rw [h.verdict_object hget]
  change Verdict.known (h.graph.surfaceLevel _ _ id false [id]) = _
  cases readonly with
  | false =>
    rw [h.surfaceLevel_writable hget rfl]
    rfl
  | true =>
    have hleast : Verdict.meetAll ([element].map h.verdict) = h.verdict element :=
      Verdict.meet_unknown _
    obtain ⟨hnumber, hmethod⟩ := h.le_verdict_fixed hequipped
      (Verdict.meet_le_left (.known .readonlyDeep) (.meetAll ([element].map h.verdict)))
    rw [h.surfaceLevel_crate hget rfl ?_ (methodBound_of_listMethods false (List.subset_cons_self _ _))
      rfl ?_ ?_]
    · change Verdict.known (max _ (Level.cap _ (Verdict.meetAll ([element].map h.verdict)))) = _
      rw [hleast, if_pos rfl, Verdict.known_sheltered]
    · rw [List.any_eq_false]
      intro property hproperty
      rcases List.mem_cons.mp hproperty with rfl | hmember
      · decide
      · rw [type_of_mem_listMethods hmember, not_writable_of_method]
        decide
    · intro property hproperty
      rcases List.mem_cons.mp hproperty with rfl | hmember
      · exact hnumber
      · rw [type_of_mem_listMethods hmember]
        exact hmethod
    · intro kind signature hsignature
      cases kind with
      | string => cases hsignature
      | number =>
        cases hsignature
        refine ⟨rfl, (Verdict.meet_le_right _ _).trans ?_⟩
        exact Verdict.meetAll_le List.mem_cons_self

/-! ### Tuples -/

theorem verdict_tuple {readonly : Bool} {elements : List TypeId} {union : TypeId}
    (hget : store.get? id = some (.object (store.tupleType readonly elements union)))
    (hunion : (Verdict.known .readonlyDeep).meet (.meetAll (elements.map h.verdict)) ≤
      h.verdict union) :
    h.verdict id =
      if readonly then (Verdict.meetAll (elements.map h.verdict)).sheltered else .known .mutable := by
  have hnonempty : (store.tupleType readonly elements union).properties.isEmpty = false := by
    simp [tupleType]
  rw [h.verdict_object hget, hnonempty]
  cases readonly with
  | false => rfl
  | true =>
    obtain ⟨hnumber, hmethod⟩ := h.le_verdict_fixed hequipped
      (Verdict.meet_le_left (.known .readonlyDeep) (.meetAll (elements.map h.verdict)))
    have hmethods : store.listMethods true ⊆ (store.tupleType true elements union).properties :=
      fun _ hmember => List.mem_append_right _ (List.mem_cons_of_mem _ hmember)
    change Verdict.known (h.graph.surfaceLevel _ _ id true [id]) = _
    rw [h.surfaceLevel_crate hget hnonempty ?_ (methodBound_of_listMethods true hmethods) rfl ?_ ?_]
    · exact (Verdict.known_sheltered _).symm
    · rw [List.any_eq_false]
      intro property hproperty
      rcases cases_of_mem_tupleProperties hproperty with ⟨hreadonly, _⟩ | ⟨hname, _⟩ | hmember
      · simp [Property.writable, Property.exempt, hreadonly]
      · simp [Property.writable, Property.exempt, hname]
      · rw [type_of_mem_listMethods hmember, not_writable_of_method]
        decide
    · intro property hproperty
      rcases cases_of_mem_tupleProperties hproperty with ⟨_, htype⟩ | ⟨_, htype⟩ | hmember
      · refine (Verdict.meet_le_right _ _).trans (Verdict.meetAll_le ?_)
        exact List.mem_map_of_mem htype
      · rw [htype]
        exact hnumber
      · rw [type_of_mem_listMethods hmember]
        exact hmethod
    · intro kind signature hsignature
      cases kind with
      | string => cases hsignature
      | number =>
        cases hsignature
        exact ⟨rfl, hunion⟩

end Regular

end Store

end Immutability
