import Immutability.Proofs.SettledListings
import Immutability.Proofs.WriterAgreement
import Immutability.Store.Host

/-!
# Answers that do not change

What a store says about an allocated type depends on the types that can be reached from it, all of which
are allocated as well. So the answers stay the same while the store gains types. The text of a type is
such an answer too: its layout mentions allocated types only.
-/

set_option autoImplicit false

namespace Immutability

/-! ### The types in a layout -/

namespace Store

variable {store later : Store} {id : TypeId}

theorem Whole.allocated_of_shownBy (hwhole : store.Whole) {object : ObjectType} {other : TypeId}
    (hget : store.get? id = some (.object object)) (h : other ∈ store.shownBy object) :
    store.Allocated other := by
  have hmentions : ∀ mentioned ∈ (StoredType.object object).mentions, store.Allocated mentioned :=
    hwhole.closed.types id _ hget
  have harguments : ∀ argument ∈ object.typeArguments, store.Allocated argument := by
    intro argument hargument
    apply hmentions
    simp [StoredType.mentions, hargument]
  unfold shownBy at h
  split at h
  · rw [List.mem_singleton.mp h]
    cases hlist : object.typeArguments with
    | nil => exact Nat.lt_of_lt_of_le (by decide) hwhole.intrinsic
    | cons first rest => exact harguments first (by simp [hlist])
  · exact harguments other h
  · split at h
    · exact harguments other h
    · apply hmentions
      simp only [ObjectType.shown, StoredType.mentions, List.mem_append] at h ⊢
      tauto

/-- The layout of a type mentions allocated types only. -/
theorem Whole.allocated_of_layout (hwhole : store.Whole) {other : TypeId}
    (h : other ∈ Piece.types (store.layout id)) : store.Allocated other := by
  rw [types_layout] at h
  unfold shown at h
  split at h
  · next name arguments hnamed =>
    simp only [namedAlias?, Option.bind_eq_bind, Option.bind_eq_some_iff, Option.pure_def,
      Option.some.injEq, Prod.mk.injEq] at hnamed
    obtain ⟨found, hfound, _, _, _, rfl⟩ := hnamed
    exact hwhole.closed.aliases id found hfound other h
  · split at h
    · next members hget => exact hwhole.closed.types id _ hget other h
    · next members hget => exact hwhole.closed.types id _ hget other h
    · next type hget => exact hwhole.closed.types id _ hget other h
    · next object hget => exact hwhole.allocated_of_shownBy hget h
    · cases h

theorem linked_of_typeArguments {argument : TypeId} (h : argument ∈ store.typeArguments id) :
    Linked StoredType.parts store id argument := by
  unfold typeArguments object? at h
  cases hget : store.get? id with
  | none =>
    rw [hget] at h
    cases h
  | some data =>
    rw [hget] at h
    refine ⟨data, hget, ?_⟩
    cases data with
    | object object => simp [StoredType.parts, StoredType.mentions, h]
    | _ => cases h

theorem linked_of_indexSignature {kind : IndexKind} {signature : IndexSignature}
    (h : store.indexSignature id kind = some signature) :
    Linked StoredType.parts store id signature.value := by
  unfold indexSignature object? at h
  cases hget : store.get? id with
  | none =>
    rw [hget] at h
    cases h
  | some data =>
    rw [hget] at h
    refine ⟨data, hget, ?_⟩
    cases data with
    | object object =>
      have hindex : object.index kind = some signature := h
      cases kind <;> simp_all [StoredType.parts, StoredType.mentions, ObjectType.index]
    | _ => cases h

theorem Whole.allocated_of_linked (hwhole : store.Whole) {child : TypeId}
    (h : Linked StoredType.parts store id child) : store.Allocated child := by
  obtain ⟨data, hget, hpart⟩ := h
  exact hwhole.closed.types id data hget child (parts_subset_mentions data hpart)

/-! ### What extending a store leaves alone -/

namespace Extends

theorem aliasOf? (h : Extends store later) (id : TypeId) : later.aliasOf? id = store.aliasOf? id := by
  rw [h.frame]
  rfl

theorem symbol? (h : Extends store later) (id : SymbolId) : later.symbol? id = store.symbol? id := by
  rw [h.frame]
  rfl

theorem file? (h : Extends store later) (id : FileId) : later.file? id = store.file? id := by
  rw [h.frame]
  rfl

theorem written? (h : Extends store later) (id : NodeId) : later.written? id = store.written? id := by
  rw [h.frame]
  rfl

theorem symbolName? (h : Extends store later) (id : SymbolId) :
    later.symbolName? id = store.symbolName? id := by
  rw [Store.symbolName?, h.symbol?, Store.symbolName?]

theorem namedAlias? (h : Extends store later) (id : TypeId) :
    later.namedAlias? id = store.namedAlias? id := by
  rw [h.frame]
  rfl

theorem object? (h : Extends store later) (hid : store.Allocated id) :
    later.object? id = store.object? id := by
  rw [Store.object?, h.kept id hid, Store.object?]

theorem shape (h : Extends store later) (hid : store.Allocated id) :
    later.shape id = store.shape id := by
  rw [Store.shape, h.kept id hid, Store.shape]

theorem isReference (h : Extends store later) (hid : store.Allocated id) :
    later.isReference id = store.isReference id := by
  rw [Store.isReference, h.object? hid, Store.isReference]

theorem typeArguments (h : Extends store later) (hid : store.Allocated id) :
    later.typeArguments id = store.typeArguments id := by
  rw [Store.typeArguments, h.object? hid, Store.typeArguments]

theorem indexSignature (h : Extends store later) (hid : store.Allocated id) (kind : IndexKind) :
    later.indexSignature id kind = store.indexSignature id kind := by
  rw [Store.indexSignature, h.object? hid, Store.indexSignature]

theorem declarationFiles (h : Extends store later) (hid : store.Allocated id) :
    later.declarationFiles id = store.declarationFiles id := by
  have hsymbols : later.symbol? = store.symbol? := funext h.symbol?
  have hfiles : later.file? = store.file? := funext h.file?
  rw [Store.declarationFiles, declaringSymbol?, h.kept id hid, h.aliasOf?, hsymbols, hfiles]
  rfl

theorem program (h : Extends store later) : later.program = store.program := by
  rw [h.frame]

theorem needsParentheses (h : Extends store later) (hid : store.Allocated id) :
    later.needsParentheses id = store.needsParentheses id := by
  rw [Store.needsParentheses, h.kept id hid, h.aliasOf?, Store.needsParentheses]

theorem operand (h : Extends store later) (hid : store.Allocated id) :
    later.operand id = store.operand id := by
  rw [Store.operand, h.needsParentheses hid, Store.operand]

theorem declaredName? (h : Extends store later) (hid : store.Allocated id) :
    later.declaredName? id = store.declaredName? id := by
  have hnames : later.symbolName? = store.symbolName? := funext h.symbolName?
  rw [Store.declaredName?, h.kept id hid, hnames, Store.declaredName?]

theorem objectLayout (h : Extends store later) {object : ObjectType}
    (harguments : ∀ argument ∈ object.typeArguments, store.Allocated argument)
    (hintrinsic : firstType.index ≤ store.nextType.index) :
    later.objectLayout object = store.objectLayout object := by
  have hnames : later.symbolName? = store.symbolName? := funext h.symbolName?
  have helement : store.Allocated (object.typeArguments.head?.getD Intrinsic.unknown.id) := by
    cases hlist : object.typeArguments with
    | nil => exact Nat.lt_of_lt_of_le (by decide) hintrinsic
    | cons first rest => exact harguments first (by simp [hlist])
  rw [Store.objectLayout, hnames, h.operand helement, Store.objectLayout]

theorem layout (h : Extends store later) (hwhole : store.Whole) (hid : store.Allocated id) :
    later.layout id = store.layout id := by
  obtain ⟨data, hget⟩ := hwhole.exists_get? hid
  have hnames : later.symbolName? = store.symbolName? := funext h.symbolName?
  have hmentions := hwhole.closed.types id data hget
  have hoperands : ∀ members : List TypeId, members ⊆ data.mentions →
      members.map later.operand = members.map store.operand :=
    fun members hsub => List.map_congr_left fun member hmember =>
      h.operand (hmentions member (hsub hmember))
  unfold Store.layout
  rw [h.namedAlias?, h.kept id hid, hget, hnames]
  cases data with
  | union members => simp only [hoperands members (List.Subset.refl _)]
  | intersection members => simp only [hoperands members (List.Subset.refl _)]
  | object object =>
    have harguments : ∀ argument ∈ object.typeArguments, store.Allocated argument := by
      intro argument hargument
      apply hmentions argument
      simp [StoredType.mentions, hargument]
    simp only [h.objectLayout harguments hwhole.intrinsic]
  | _ => rfl

/-- Whether a type can be called does not depend on the room for the descent, if there is enough. -/
theorem callableWithin (h : Extends store later) (hwhole : store.Whole) {depth room : Nat}
    (hid : store.Allocated id) (hdepth : Within store.Member depth id)
    (hroom : Within later.Member room id) :
    later.callableWithin room id = store.callableWithin depth id := by
  induction depth generalizing room id with
  | zero => exact hdepth.elim
  | succ depth ih =>
    cases room with
    | zero => exact hroom.elim
    | succ room =>
      obtain ⟨data, hget⟩ := hwhole.exists_get? hid
      have hlater : later.get? id = some data := (h.kept id hid).trans hget
      rw [Store.callableWithin, Store.callableWithin, hget, hlater]
      cases data with
      | intersection members =>
        have hmembers : ∀ member ∈ members,
            later.callableWithin room member = store.callableWithin depth member := by
          intro member hmember
          exact ih (hwhole.closed.types id _ hget member hmember)
            (hdepth member ⟨_, hget, hmember⟩) (hroom member ⟨_, hlater, hmember⟩)
        dsimp only
        rw [Bool.eq_iff_iff, List.any_eq_true, List.any_eq_true]
        constructor
        · rintro ⟨member, hmember, hcall⟩
          exact ⟨member, hmember, hmembers member hmember ▸ hcall⟩
        · rintro ⟨member, hmember, hcall⟩
          exact ⟨member, hmember, (hmembers member hmember).symm ▸ hcall⟩
      | _ => rfl

end Extends

theorem Gains.callable (h : Gains store later) (hwhole : store.Whole) (hid : store.Allocated id) :
    later.callable id = store.callable id :=
  (Gains.extends h).callableWithin hwhole hid (hwhole.within id) ((h.whole hwhole).within id)

/-! ### Texts -/

namespace Extends

variable {γ : Type}

theorem declaredNames (h : Extends store later) (hwhole : store.Whole) {write other : Writer γ}
    (hwrite : ∀ id, store.Allocated id → write id = other id) (hid : store.Allocated id)
    (state : γ) :
    later.declaredNames write id state = store.declaredNames other id state := by
  have harguments : ∀ argument ∈ store.typeArguments id, write argument = other argument := by
    intro argument hargument
    exact hwrite argument (hwhole.allocated_of_linked (linked_of_typeArguments hargument))
  have haliases : ∀ argument ∈ ((store.aliasOf? id).map (·.arguments)).getD [],
      write argument = other argument := by
    intro argument hargument
    apply hwrite
    cases hfound : store.aliasOf? id with
    | none =>
      rw [hfound] at hargument
      cases hargument
    | some found =>
      rw [hfound] at hargument
      exact hwhole.closed.aliases id found hfound argument hargument
  rw [Store.declaredNames, Store.declaredNames, h.declaredName? hid, h.typeArguments hid,
    h.namedAlias?, h.aliasOf?]
  simp only [writeApplied?_congr harguments, writeApplied?_congr haliases]

variable [Warden γ]

theorem format (h : Extends store later) (hwhole : store.Whole) (room : Nat)
    (hid : store.Allocated id) : (later.format room id : γ → String × γ) = store.format room id := by
  induction room generalizing id with
  | zero => rfl
  | succ room ih =>
    funext state
    have hpieces : ∀ other ∈ Piece.types (store.layout id),
        (later.format room other : γ → String × γ) = store.format room other :=
      fun other hother => ih (hwhole.allocated_of_layout hother)
    rw [Store.format, Store.format, formatOver, formatOver, h.layout hwhole hid]
    simp only [writeAll_congr hpieces]

theorem formatArgument (h : Extends store later) (hwhole : store.Whole) (room : Nat)
    (hid : store.Allocated id) :
    (later.formatArgument room id : γ → String × γ) = store.formatArgument room id := by
  induction room generalizing id with
  | zero => rfl
  | succ room ih =>
    funext state
    have hpieces : ∀ other ∈ Piece.types (store.layout id),
        (later.format room other : γ → String × γ) = store.format room other :=
      fun other hother => h.format hwhole room (hwhole.allocated_of_layout hother)
    rw [Store.formatArgument, Store.formatArgument, argumentOver, argumentOver, h.layout hwhole hid]
    simp only [h.declaredNames hwhole (fun other hother => ih hother) hid, writeAll_congr hpieces]

/-- The text of an allocated type stays as it is. -/
theorem typeName (h : Extends store later) (hwhole : store.Whole) {ref : TypeRef}
    (hid : store.Allocated ref.id) : later.typeName ref = store.typeName ref := by
  have hwritten : later.written? = store.written? := funext h.written?
  have hformat : (later.format renderingRoom ref.id : Guard → String × Guard) = _ :=
    h.format hwhole renderingRoom hid
  have hargument : ∀ id, store.Allocated id →
      (later.formatArgument renderingRoom id : Guard → String × Guard) = _ :=
    fun id hid => h.formatArgument hwhole renderingRoom hid
  rw [Store.typeName, Store.typeName, Store.describe, Store.describe, describeOver, describeOver,
    h.declaredNames hwhole hargument hid, hwritten, Store.render, Store.render, hformat]

end Extends

end Store

end Immutability
