import Immutability.Rendering.Layout

/-!
# The types that a rendering shows

The rendering of a type shows its type arguments if it goes by a name, and otherwise the types that it is
made of. These are the gaps in its layout, from left to right.
-/

set_option autoImplicit false

namespace Immutability

def Piece.types : List Piece → List TypeId
  | [] => []
  | .text _ :: rest => types rest
  | .type id :: rest => id :: types rest

theorem Piece.types_append (pieces rest : List Piece) :
    types (pieces ++ rest) = types pieces ++ types rest := by
  induction pieces with
  | nil => rfl
  | cons piece pieces ih =>
    cases piece with
    | text fixed => exact ih
    | type id => exact congrArg (id :: ·) ih

namespace Layout

theorem types_separated (between : String) (layouts : List (List Piece)) :
    Piece.types (separated between layouts) = layouts.flatMap Piece.types := by
  induction layouts with
  | nil => rfl
  | cons first rest ih =>
    cases rest with
    | nil => simp [separated, List.intercalate]
    | cons second rest =>
      have hcons : separated between (first :: second :: rest) =
          first ++ .text between :: separated between (second :: rest) := by
        simp [separated, List.intercalate]
      rw [hcons, Piece.types_append, List.flatMap_cons, ← ih]
      rfl

theorem types_listed (ids : List TypeId) : Piece.types (listed ids) = ids := by
  rw [listed, types_separated, List.flatMap_map]
  exact List.flatMap_singleton' ids

theorem types_applied (name : String) (arguments : List TypeId) :
    Piece.types (applied name arguments) = arguments := by
  cases arguments with
  | nil => rfl
  | cons first rest =>
    change Piece.types (listed (first :: rest) ++ [.text ">"]) = _
    rw [Piece.types_append, types_listed]
    exact List.append_nil _

end Layout

def ObjectType.shown (object : ObjectType) : List TypeId :=
  (object.stringIndex.map (·.value)).toList ++ (object.numberIndex.map (·.value)).toList ++
    object.properties.map (·.type)

namespace Layout

theorem flatMap_types_members (object : ObjectType) :
    (members object).flatMap Piece.types = object.shown := by
  have hcall : (if object.callable then [[Piece.text "(): unknown;"]] else []).flatMap Piece.types =
      [] := by
    split <;> rfl
  have hindex : ∀ (key : String) (signature : Option IndexSignature),
      (signature.map (indexMember key)).toList.flatMap Piece.types =
        (signature.map (·.value)).toList := by
    intro key signature
    cases signature <;> rfl
  have hproperties : (object.properties.map propertyMember).flatMap Piece.types =
      object.properties.map (·.type) := by
    rw [List.flatMap_map]
    exact List.map_eq_flatMap.symm
  rw [members, List.flatMap_append, List.flatMap_append, List.flatMap_append, hcall, hindex, hindex,
    hproperties, ObjectType.shown, List.nil_append]

theorem types_literal (object : ObjectType) : Piece.types (literal object) = object.shown := by
  have hmembers := flatMap_types_members object
  unfold literal
  split
  · next hfunction =>
    simp only [isFunction, Bool.and_eq_true, List.isEmpty_iff, Option.isNone_iff_eq_none] at hfunction
    simp [Piece.types, ObjectType.shown, hfunction]
  · split
    · next hnone => rwa [hnone] at hmembers
    · change Piece.types (separated " " (members object) ++ [.text " \x7d"]) = _
      rw [Piece.types_append, types_separated, hmembers]
      exact List.append_nil _

end Layout

namespace Store

def shownBy (store : Store) (object : ObjectType) : List TypeId :=
  match object.kind with
  | .array => [object.typeArguments.head?.getD Intrinsic.unknown.id]
  | .tuple _ => object.typeArguments
  | .plain =>
    if (object.symbol.bind store.symbolName?).isSome then object.typeArguments else object.shown

/-- The types that the rendering of a type shows, from left to right. -/
def shown (store : Store) (id : TypeId) : List TypeId :=
  match store.namedAlias? id with
  | some (_, arguments) => arguments
  | none =>
    match store.get? id with
    | some (.union members) | some (.intersection members) => members
    | some (.conditional type) => [type.check, type.extended, type.whenTrue.id, type.whenFalse.id]
    | some (.object object) => store.shownBy object
    | _ => []

theorem types_operand (store : Store) (id : TypeId) : Piece.types (store.operand id) = [id] := by
  unfold operand
  split <;> rfl

theorem types_operands (store : Store) (between : String) (members : List TypeId) :
    Piece.types (Layout.separated between (members.map store.operand)) = members := by
  rw [Layout.types_separated, List.flatMap_map]
  simp only [types_operand]
  exact List.flatMap_singleton' members

theorem types_objectLayout (store : Store) (object : ObjectType) :
    Piece.types (store.objectLayout object) = store.shownBy object := by
  unfold objectLayout shownBy
  cases object.kind with
  | array =>
    change Piece.types (store.operand _ ++ [.text "[]"]) = _
    rw [Piece.types_append, types_operand]
    rfl
  | tuple readonly =>
    change Piece.types (Layout.listed _ ++ [.text "]"]) = _
    rw [Piece.types_append, Layout.types_listed]
    exact List.append_nil _
  | plain =>
    cases object.symbol.bind store.symbolName? with
    | some name => exact Layout.types_applied name object.typeArguments
    | none => exact Layout.types_literal object

theorem types_layout (store : Store) (id : TypeId) :
    Piece.types (store.layout id) = store.shown id := by
  unfold layout shown
  cases store.namedAlias? id with
  | some named => exact Layout.types_applied named.1 named.2
  | none =>
    cases store.get? id with
    | none => rfl
    | some data =>
      cases data with
      | union members => exact store.types_operands " | " members
      | intersection members => exact store.types_operands " & " members
      | object object => exact store.types_objectLayout object
      | _ => rfl

end Store

end Immutability
