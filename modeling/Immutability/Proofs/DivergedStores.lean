import Immutability.Proofs.StoreCompletion
import Immutability.Proofs.StoreRuns
import Immutability.Proofs.WrittenPlaces

/-!
# Stores that grew apart

Two stores that gained from one and the same store may have the same new types, but under different
handles and in another order. Types of the two are alike if they are one old type, or new intersections
of types that are alike. What is alike has properties that are alike, since merging is done with the same
names and flags on both sides, and so it has the same verdict.

So every type of a store has one verdict, whatever is asked first: a request that starts from any store
that gained from this one ends with this verdict.
-/

set_option autoImplicit false

namespace Immutability

/-! ### Lists that are alike -/

theorem forall₂_eraseDups {α β : Type} [BEq α] [LawfulBEq α] [BEq β] [LawfulBEq β]
    {alike : α → β → Prop} (hunique : ∀ {a b c d}, alike a b → alike c d → (a = c ↔ b = d))
    {one : List α} {two : List β} (h : List.Forall₂ alike one two) :
    List.Forall₂ alike one.eraseDups two.eraseDups := by
  -- the rest is shorter once the occurrences of the first element are gone
  induction hlength : one.length using Nat.strong_induction_on generalizing one two with
  | _ length ih =>
    cases h with
    | nil => exact .nil
    | @cons a b rest others hab hrest =>
      rw [List.eraseDups_cons, List.eraseDups_cons]
      refine .cons hab (ih _ ?_ (List.rel_filter ?_ hrest) rfl)
      · rw [← hlength, List.length_cons, Nat.lt_succ_iff]
        exact List.length_filter_le _ rest
      · intro c d hcd
        simp only [Bool.not_eq_true', beq_eq_false_iff_ne]
        exact not_congr (hunique hcd hab)

theorem forall₂_of_common {α β γ : Type} {left : α → β → Prop} {right : α → γ → Prop}
    {alike : β → γ → Prop} (halike : ∀ a b c, left a b → right a c → alike b c) {common : List α}
    {one : List β} {two : List γ} (h : List.Forall₂ left common one)
    (g : List.Forall₂ right common two) : List.Forall₂ alike one two := by
  induction h generalizing two with
  | nil =>
    cases g
    exact .nil
  | cons hleft _ ih =>
    cases g with
    | cons hright hrest => exact .cons (halike _ _ _ hleft hright) (ih hrest)

theorem map_eq_of_forall₂ {α β γ : Type} {f : α → γ} {g : β → γ} {one : List α} {two : List β}
    (h : List.Forall₂ (fun a b => f a = g b) one two) : one.map f = two.map g := by
  induction h with
  | nil => rfl
  | cons hsame _ ih => rw [List.map_cons, List.map_cons, hsame, ih]

structure Property.Like (alike : TypeId → TypeId → Prop) (one two : Property) : Prop where
  name : one.name = two.name
  flags : one.flags = two.flags
  type : alike one.type two.type

namespace Property

variable {alike : TypeId → TypeId → Prop} {one two : List Property}

theorem names_of_like (h : List.Forall₂ (Like alike) one two) :
    one.map (·.name) = two.map (·.name) :=
  map_eq_of_forall₂ (h.imp fun _ _ hlike => hlike.name)

theorem types_of_like (h : List.Forall₂ (Like alike) one two) :
    List.Forall₂ alike (one.map (·.type)) (two.map (·.type)) :=
  List.rel_map (fun _ _ hlike => hlike.type) h

theorem named_of_like (h : List.Forall₂ (Like alike) one two) (name : String) :
    List.Forall₂ (Like alike) (PropertyMerge.named name one) (PropertyMerge.named name two) := by
  apply List.rel_filter _ h
  intro property other hlike
  simp only [hlike.name]

theorem mergeAll_of_like (h : List.Forall₂ (Like alike) one two) :
    PropertyFlags.mergeAll one = .mergeAll two := by
  unfold PropertyFlags.mergeAll
  generalize PropertyFlags.blank = flags
  induction h generalizing flags with
  | nil => rfl
  | cons hlike _ ih => rw [List.foldl_cons, List.foldl_cons, hlike.flags, ih]

theorem any_of_like (h : List.Forall₂ (Like alike) one two) {test : Property → Bool}
    (htest : ∀ one two, Like alike one two → test one = test two) : one.any test = two.any test := by
  induction h with
  | nil => rfl
  | cons hlike _ ih => rw [List.any_cons, List.any_cons, htest _ _ hlike, ih]

theorem exempt_of_like {one two : Property} (h : one.Like alike two) (isTuple : Bool) :
    one.exempt isTuple = two.exempt isTuple := by
  rw [exempt, h.name, h.flags, exempt]

theorem any_writable_of_like (h : List.Forall₂ (Like alike) one two) (isTuple : Bool) :
    one.any (writable isTuple) = two.any (writable isTuple) := by
  apply any_of_like h
  intro property other hlike
  rw [writable, exempt_of_like hlike, hlike.flags, writable]

theorem methodBound_of_like (h : List.Forall₂ (Like alike) one two) (isTuple : Bool) :
    methodBound isTuple one = methodBound isTuple two := by
  have hmethods : one.any (fun property => !property.exempt isTuple && property.flags.method) =
      two.any (fun property => !property.exempt isTuple && property.flags.method) := by
    apply any_of_like h
    intro property other hlike
    rw [exempt_of_like hlike, hlike.flags]
  rw [methodBound, hmethods, methodBound]

end Property

namespace TypeGraph

variable {graph other : TypeGraph} {value worth : TypeRef → Verdict} {id twin : TypeId}

theorem map_bare_eq {ids others : List TypeId}
    (h : List.Forall₂ (fun one two => value { id := one } = worth { id := two }) ids others) :
    (bare ids).map value = (bare others).map worth := by
  rw [bare, bare, List.map_map, List.map_map]
  exact map_eq_of_forall₂ h

/-- The level of an object depends on the names and flags of its properties and on the verdicts of what
is below. -/
theorem surfaceLevel_of_like {sources twins : List TypeId}
    (hlist : List.Forall₂ (Property.Like fun one two => value { id := one } = worth { id := two })
      (graph.properties id) (other.properties twin))
    (harguments : graph.argumentBound value id = other.argumentBound worth twin)
    (hindex : ∀ kind, graph.indexBound value kind sources = other.indexBound worth kind twins)
    (threshold : Level) (isTuple : Bool) :
    graph.surfaceLevel value threshold id isTuple sources =
      other.surfaceLevel worth threshold twin isTuple twins := by
  have hempty : (graph.properties id).isEmpty = (other.properties twin).isEmpty := by
    rw [Bool.eq_iff_iff, List.isEmpty_iff_length_eq_zero, hlist.length_eq,
      List.isEmpty_iff_length_eq_zero]
  unfold surfaceLevel surfaceBound
  rw [Property.any_writable_of_like hlist, hempty, Property.methodBound_of_like hlist,
    map_bare_eq (Property.types_of_like hlist), harguments, hindex .string, hindex .number]

end TypeGraph

/-- What a choice leads to, with the places where it was written out. -/
def StoredType.branches : StoredType → List TypeRef
  | conditional type => [type.whenTrue, type.whenFalse]
  | _ => []

namespace Store

/-! ### Types that are alike -/

/-- A complete chain that starts from a store which gained from this one. -/
structure Chain.Continues (chain : Chain) (base : Store) : Prop where
  complete : chain.Complete
  gains : Gains base (chain.stage 0)

/-- Types in two chains that continue one store: an old type, or new intersections of types that are
alike. -/
inductive Alike (base : Store) (one two : Chain) : TypeId → TypeId → Prop where
  | old {id : TypeId} : base.Allocated id → Alike base one two id id
  | new {id twin : TypeId} {members twins : List TypeId} :
      ¬ base.Allocated id → ¬ base.Allocated twin →
      one.Holds id (.intersection members) → two.Holds twin (.intersection twins) →
      one.Meets members id → two.Meets twins twin → members.length = twins.length →
      (∀ a b, (a, b) ∈ members.zip twins → Alike base one two a b) → Alike base one two id twin

variable {base : Store} {chain one two : Chain} {id twin : TypeId} {members twins : List TypeId}
  {data : StoredType} {identity : TypeId → Identity}

namespace Chain.Continues

theorem gains_stage (h : chain.Continues base) (number : Nat) : Gains base (chain.stage number) :=
  h.gains.trans (chain.gains_of_le (Nat.zero_le number))

theorem reflects (h : chain.Continues base) (hwhole : base.Whole) (identity : TypeId → Identity) :
    (chain.limit identity).Reflects identity base :=
  (chain.reflects_limit identity 0).of_gains h.gains hwhole

theorem holds_iff (h : chain.Continues base) (hid : base.Allocated id) :
    chain.Holds id data ↔ base.get? id = some data := by
  have hkept := fun number => (Gains.extends (h.gains_stage number)).kept id hid
  constructor
  · rintro ⟨number, hget⟩
    rw [← hkept number, hget]
  · intro hget
    exact ⟨0, by rw [hkept 0, hget]⟩

/-- An old type that is an intersection was the intersection of old types before. -/
theorem of_meets (h : chain.Continues base) (hwhole : base.Whole) (htabled : base.Tabled)
    (hlong : 2 ≤ members.eraseDups.length) (hmeets : chain.Meets members id)
    (hid : base.Allocated id) :
    base.meet? members = some id ∧ ∀ member ∈ members, base.Allocated member := by
  obtain ⟨number, hmeet⟩ := hmeets
  rw [meet?_of_long hlong] at hmeet
  rcases (Gains.extends (h.gains_stage number)).grows.interned_new _ _ hmeet with hold | hnew
  · rw [meet?_of_long hlong]
    refine ⟨hold, fun member hmember => ?_⟩
    exact hwhole.closed.types id _ (htabled _ _ hold) member (List.mem_eraseDups.mpr hmember)
  · exact absurd hid (Nat.not_lt.mpr hnew)

end Chain.Continues

namespace Alike

theorem symm (h : Alike base one two id twin) : Alike base two one twin id := by
  induction h with
  | old hid => exact .old hid
  | new hid htwin hdata hother hmeets hagain hlength _ ih =>
    have hflipped : List.Forall₂ (Alike base two one) _ _ :=
      (List.forall₂_iff_zip.mpr ⟨hlength, fun hmem => ih _ _ hmem⟩).flip
    exact .new htwin hid hother hdata hagain hmeets hlength.symm fun _ _ => List.forall₂_zip hflipped

theorem eq_of_allocated (h : Alike base one two id twin) (hid : base.Allocated id) : twin = id := by
  cases h with
  | old => rfl
  | new hnew => exact absurd hid hnew

theorem unique {other : TypeId} (h : Alike base one two id twin) (g : Alike base one two id other) :
    twin = other := by
  induction h generalizing other with
  | old hid => exact (g.eq_of_allocated hid).symm
  | @new id twin members twins hnew _ hdata _ _ hmeets hlength _ ih =>
    cases g with
    | old hid => exact absurd hid hnew
    | @new _ _ others others' _ _ hagain _ _ hmeets' hlength' halike =>
      cases hdata.unique hagain
      -- members have one counterpart each, so the two intersections have the same members
      have hone : List.Forall₂ (fun a b => ∀ c, Alike base one two a c → b = c) members twins :=
        List.forall₂_iff_zip.mpr ⟨hlength, fun hmem _ halike => ih _ _ hmem halike⟩
      have htwo : List.Forall₂ (Alike base one two) members others' :=
        List.forall₂_iff_zip.mpr ⟨hlength', fun hmem => halike _ _ hmem⟩
      have hsame : List.Forall₂ (· = ·) twins others' :=
        forall₂_of_common (fun _ _ c honly halike => honly c halike) hone htwo
      rw [List.forall₂_eq_eq_eq] at hsame
      subst hsame
      exact hmeets.unique hmeets'

theorem eq_iff {other another : TypeId} (h : Alike base one two id twin)
    (g : Alike base one two other another) : id = other ↔ twin = another := by
  constructor
  · rintro rfl
    exact h.unique g
  · rintro rfl
    exact h.symm.unique g.symm

theorem eq_of_forall₂ (h : List.Forall₂ (Alike base one two) members twins)
    (hmembers : ∀ member ∈ members, base.Allocated member) : twins = members := by
  induction h with
  | nil => rfl
  | cons halike _ ih =>
    obtain ⟨hfirst, hrest⟩ := List.forall_mem_cons.mp hmembers
    rw [halike.eq_of_allocated hfirst, ih hrest]

theorem refl_of_allocated (hmembers : ∀ member ∈ members, base.Allocated member) :
    List.Forall₂ (Alike base one two) members members :=
  List.forall₂_same.mpr fun member hmember => .old (hmembers member hmember)

section Continued

variable (hwhole : base.Whole) (htabled : base.Tabled) (hone : one.Continues base)
  (htwo : two.Continues base)

include hone in
theorem allocated (h : Alike base one two id twin) : ∃ number, (one.stage number).Allocated id := by
  cases h with
  | old hid => exact ⟨0, (Gains.extends hone.gains).allocated hid⟩
  | new _ _ hdata =>
    obtain ⟨number, hget⟩ := hdata
    exact ⟨number, (one.whole_stage number).allocated_of_get? hget⟩

include hwhole hone htwo in
theorem exists_members (h : Alike base one two id twin) (hdata : one.Holds id (.intersection members)) :
    ∃ twins, two.Holds twin (.intersection twins) ∧
      List.Forall₂ (Alike base one two) members twins := by
  cases h with
  | old hid =>
    have hget := (hone.holds_iff hid).mp hdata
    exact ⟨members, (htwo.holds_iff hid).mpr hget,
      refl_of_allocated (hwhole.closed.types _ _ hget)⟩
  | @new _ _ others twins _ _ hagain htwin _ _ hlength halike =>
    cases hdata.unique hagain
    exact ⟨twins, htwin, List.forall₂_iff_zip.mpr ⟨hlength, fun hmem => halike _ _ hmem⟩⟩

include hone in
theorem allocated_of_plain (h : Alike base one two id twin) (hdata : one.Holds id data)
    (hplain : ∀ members, data ≠ .intersection members) :
    twin = id ∧ base.Allocated id ∧ base.get? id = some data := by
  cases h with
  | old hid => exact ⟨rfl, hid, (hone.holds_iff hid).mp hdata⟩
  | new _ _ hagain => exact absurd (hdata.unique hagain) (hplain _)

include hwhole htabled hone htwo in
/-- An intersection that is old is the same in both chains. -/
theorem eq_of_meets (h : List.Forall₂ (Alike base one two) members twins)
    (hlong : 2 ≤ members.eraseDups.length) (hid : one.Meets members id)
    (htwin : two.Meets twins twin) (hold : base.Allocated id) : twin = id := by
  obtain ⟨hmeet, hmembers⟩ := hone.of_meets hwhole htabled hlong hid hold
  rw [eq_of_forall₂ h hmembers] at htwin
  exact htwin.unique ⟨0, (Gains.extends htwo.gains).meet? hmeet⟩

include hwhole htabled hone htwo in
/-- Intersections of types that are alike are alike. -/
theorem meets (h : List.Forall₂ (Alike base one two) members twins) (hne : members ≠ [])
    (hid : one.Meets members id) (htwin : two.Meets twins twin) : Alike base one two id twin := by
  have hdistinct := forall₂_eraseDups eq_iff h
  have hother : twins ≠ [] := by
    rintro rfl
    exact hne (List.forall₂_nil_right_iff.mp h)
  rcases hone.complete.meets_cases hne hid with hsingle | ⟨hlong, hdata⟩ <;>
    rcases htwo.complete.meets_cases hother htwin with htwins | ⟨hmany, hdata'⟩
  · rw [hsingle, htwins] at hdistinct
    cases hdistinct with
    | cons halike _ => exact halike
  · rw [← hdistinct.length_eq, hsingle] at hmany
    exact absurd hmany (by simp)
  · rw [hdistinct.length_eq, htwins] at hlong
    exact absurd hlong (by simp)
  · by_cases hold : base.Allocated id
    · rw [eq_of_meets hwhole htabled hone htwo h hlong hid htwin hold]
      exact .old hold
    · have hnew : ¬ base.Allocated twin := by
        intro hback
        have hflipped : List.Forall₂ (Alike base two one) twins members :=
          (h.imp fun _ _ halike => halike.symm).flip
        rw [eq_of_meets hwhole htabled htwo hone hflipped hmany htwin hid hback] at hold
        exact hold hback
      exact .new hold hnew hdata hdata' (hid.congr (eraseDups_eraseDups members).symm)
        (htwin.congr (eraseDups_eraseDups twins).symm) hdistinct.length_eq
        fun _ _ => List.forall₂_zip hdistinct

include hwhole htabled hone htwo in
/-- Types that are alike have properties that are alike. -/
theorem listing (identity : TypeId → Identity) (h : Alike base one two id twin) :
    List.Forall₂ (Property.Like (Alike base one two)) ((one.limit identity).properties id)
      ((two.limit identity).properties twin) := by
  obtain ⟨number, hid⟩ := h.allocated hone
  obtain ⟨later, properties, hsettled⟩ := hone.complete.settles number id hid
  clear hid
  induction hsettled generalizing twin with
  | @plain id data hget hplain =>
    obtain ⟨rfl, _, hold⟩ := h.allocated_of_plain hone ⟨later, hget⟩ hplain
    rw [(hone.reflects hwhole identity).properties _ _ (.plain hold hplain),
      (htwo.reflects hwhole identity).properties _ _ (.plain hold hplain)]
    refine List.forall₂_same.mpr fun property hproperty => ⟨rfl, rfl, .old ?_⟩
    exact hwhole.closed.types _ _ hold _ (StoredType.type_mem_mentions hproperty)
  | @merged id members lists properties hget _ _ ih =>
    obtain ⟨twins, htwin, hmembers⟩ := h.exists_members hwhole hone htwo ⟨later, hget⟩
    have hoccurrences : List.Forall₂ (Property.Like (Alike base one two))
        (members.flatMap (one.limit identity).properties)
        (twins.flatMap (two.limit identity).properties) := by
      have hlistings := forall₂_imp_of_mem hmembers fun member hmember _ => ih member hmember
      exact List.rel_flatMap hlistings fun _ _ hlisting => hlisting
    have hnames := Property.names_of_like hoccurrences
    have hleft := hone.complete.properties_intersection identity ⟨later, hget⟩
    have hright := htwo.complete.properties_intersection identity htwin
    dsimp only at hleft hright
    rw [← hnames] at hright
    refine forall₂_of_common ?_ hleft hright
    intro name property other hproperty hother
    have hnamed := Property.named_of_like hoccurrences name
    refine ⟨hproperty.name_eq.trans hother.name_eq.symm, ?_, ?_⟩
    · rw [hproperty.flags_eq, hother.flags_eq, Property.mergeAll_of_like hnamed]
    · apply meets hwhole htabled hone htwo (Property.types_of_like hnamed) _ hproperty.meets hother.meets
      exact fun hnil => hproperty.occurs (List.map_eq_nil_iff.mp hnil)

variable {value worth : TypeRef → Verdict} {kind : IndexKind} {sources others : List TypeId}

include hwhole hone htwo in
theorem indexVerdict_eq (h : Alike base one two id twin)
    (hvalue : ∀ child, (one.limit identity).indexValue? kind id = some child →
      base.Allocated child → value { id := child } = worth { id := child }) :
    (one.limit identity).indexVerdict value kind id =
      (two.limit identity).indexVerdict worth kind twin := by
  unfold TypeGraph.indexVerdict
  cases h with
  | old hid =>
    have hsignature := (hone.reflects hwhole identity).indexSignature id kind hid
    rw [(htwo.reflects hwhole identity).indexSignature id kind hid, hsignature]
    cases hfound : base.indexSignature id kind with
    | none => rfl
    | some signature =>
      dsimp only
      split
      · rfl
      · split
        · rfl
        · next hreadonly hself =>
          rw [hvalue signature.value]
          · rw [TypeGraph.indexValue?, hsignature, hfound, Option.bind_some, if_neg hreadonly,
              if_neg hself]
          · exact hwhole.allocated_of_linked (linked_of_indexSignature hfound)
  | new _ _ hdata hother =>
    rw [hdata.indexSignature_intersection, hother.indexSignature_intersection]

include hwhole hone htwo in
theorem argumentBound_eq (h : Alike base one two id twin)
    (hvalue : ∀ child ∈ (one.limit identity).typeArguments id,
      base.Allocated child → value { id := child } = worth { id := child }) :
    (one.limit identity).argumentBound value id = (two.limit identity).argumentBound worth twin := by
  unfold TypeGraph.argumentBound
  cases h with
  | old hid =>
    have harguments := (hone.reflects hwhole identity).typeArguments id hid
    rw [(hone.reflects hwhole identity).isReference id hid,
      (htwo.reflects hwhole identity).isReference id hid,
      (htwo.reflects hwhole identity).typeArguments id hid, harguments]
    rw [harguments] at hvalue
    have hsame : (bare (base.typeArguments id)).map value = (bare (base.typeArguments id)).map worth :=
      TypeGraph.map_bare_eq (List.forall₂_same.mpr fun child hchild =>
        hvalue child hchild (hwhole.allocated_of_linked (linked_of_typeArguments hchild)))
    rw [hsame]
  | new _ _ hdata hother =>
    rw [hdata.isReference_intersection, hother.isReference_intersection]
    rfl

/-- What is below a type has the same verdict as all that is like it. -/
def SameBelow (base : Store) (one two : Chain) (value worth : TypeRef → Verdict)
    (children : List TypeRef) : Prop :=
  ∀ child ∈ children, ∀ twin : TypeRef, Alike base one two child.id twin.id → value child = worth twin

include hwhole htabled hone htwo in
theorem surfaceLevel_eq (h : Alike base one two id twin)
    (hsources : List.Forall₂ (Alike base one two) sources others)
    (hvalue : SameBelow base one two value worth
      (bare ((one.limit identity).surfaceChildren id sources)))
    (threshold : Level) (isTuple : Bool) :
    (one.limit identity).surfaceLevel value threshold id isTuple sources =
      (two.limit identity).surfaceLevel worth threshold twin isTuple others := by
  have hvalue : ∀ child ∈ (one.limit identity).surfaceChildren id sources, ∀ other,
      Alike base one two child other → value { id := child } = worth { id := other } :=
    fun child hchild other halike => hvalue _ (mem_bare.mpr ⟨rfl, hchild⟩) { id := other } halike
  simp only [TypeGraph.surfaceChildren, List.mem_append, List.mem_map] at hvalue
  apply TypeGraph.surfaceLevel_of_like
  · have hlisting := listing hwhole htabled hone htwo identity h
    refine forall₂_imp_of_mem hlisting fun property hproperty other hlike => ?_
    exact ⟨hlike.name, hlike.flags, hvalue _ (Or.inl ⟨property, hproperty, rfl⟩) _ hlike.type⟩
  · apply h.argumentBound_eq hwhole hone htwo
    exact fun child hchild hold => hvalue child (Or.inr (Or.inl hchild)) child (.old hold)
  · intro kind
    have hindex : ∀ source ∈ sources, ∀ child,
        (one.limit identity).indexValue? kind source = some child → base.Allocated child →
        value { id := child } = worth { id := child } := by
      intro source hsource child hchild hold
      have hmem : child ∈ (one.limit identity).indexValues kind sources :=
        List.mem_filterMap.mpr ⟨source, hsource, hchild⟩
      apply hvalue child _ child (.old hold)
      cases kind with
      | string => exact Or.inr (Or.inr (Or.inl hmem))
      | number => exact Or.inr (Or.inr (Or.inr hmem))
    have hall := forall₂_imp_of_mem hsources fun source hsource _ halike =>
      halike.indexVerdict_eq hwhole hone htwo (hindex source hsource)
    rw [TypeGraph.indexBound, TypeGraph.indexBound, map_eq_of_forall₂ hall]

include hwhole htabled hone htwo in
theorem structural_eq_of_plain (hid : base.Allocated id) (hget : base.get? id = some data)
    (hplain : ∀ members, data ≠ .intersection members)
    (hvalue : SameBelow base one two value worth ((one.limit identity).children id)) :
    (one.limit identity).structural value id = (two.limit identity).structural worth id := by
  have hleft := hone.reflects hwhole identity
  have hright := htwo.reflects hwhole identity
  unfold TypeGraph.children at hvalue
  rw [TypeGraph.structural, TypeGraph.structural, hright.shape id hid]
  rw [hleft.shape id hid] at hvalue ⊢
  rw [Store.shape, hget] at hvalue ⊢
  cases data with
  | union members =>
    dsimp only
    rw [TypeGraph.map_bare_eq (List.forall₂_same.mpr fun member hmember => ?_)]
    apply hvalue _ (mem_bare.mpr ⟨rfl, hmember⟩)
    exact .old (hwhole.closed.types id _ hget member hmember)
  | conditional type =>
    have hbranch : ∀ branch ∈ [type.whenTrue, type.whenFalse], value branch = worth branch := by
      intro branch hbranch
      apply hvalue branch hbranch branch
      refine .old (hwhole.closed.types id _ hget branch.id ?_)
      rcases List.mem_pair.mp hbranch with rfl | rfl <;> simp [StoredType.mentions]
    exact congrArg Verdict.meetAll (List.map_congr_left hbranch)
  | object type =>
    have hsame := hleft.properties id _ (.plain hget hplain)
    rw [← hright.properties id _ (.plain hget hplain)] at hsame
    have hlevel := fun isTuple => (Alike.old hid).surfaceLevel_eq hwhole htabled hone htwo
      (.cons (.old hid) .nil) hvalue .immutable isTuple
    dsimp only
    rw [hsame, hleft.callable id hid, hright.callable id hid, hlevel true, hlevel false]
  | intersection members => exact absurd rfl (hplain members)
  | _ => rfl

include hwhole htabled hone htwo in
theorem structural_eq (h : Alike base one two id twin)
    (hvalue : SameBelow base one two value worth ((one.limit identity).children id)) :
    (one.limit identity).structural value id = (two.limit identity).structural worth twin := by
  obtain ⟨number, hid⟩ := h.allocated hone
  obtain ⟨data, hget⟩ := (one.whole_stage number).exists_get? hid
  by_cases hplain : ∃ members, data = .intersection members
  · obtain ⟨members, rfl⟩ := hplain
    have hdata : one.Holds id (.intersection members) := ⟨number, hget⟩
    obtain ⟨twins, htwin, hmembers⟩ := h.exists_members hwhole hone htwo hdata
    rw [TypeGraph.children, hdata.shape_intersection] at hvalue
    rw [TypeGraph.structural, TypeGraph.structural, hdata.shape_intersection,
      htwin.shape_intersection]
    exact congrArg Verdict.known
      (h.surfaceLevel_eq hwhole htabled hone htwo hmembers hvalue .immutable false)
  · have hplain := not_exists.mp hplain
    obtain ⟨rfl, hold, hbase⟩ := h.allocated_of_plain hone ⟨number, hget⟩ hplain
    exact structural_eq_of_plain hwhole htabled hone htwo hold hbase hplain hvalue

variable {ref other : TypeRef}

include hwhole htabled hone htwo in
/-- Types that are alike have the same verdict. -/
theorem verdict_eq (h : Alike base one two ref.id other.id) :
    (one.limit identity).verdict [] ref = (two.limit identity).verdict [] other := by
  obtain ⟨number, hid⟩ := h.allocated hone
  have hacc : Acc (one.limit identity).Child ref := hone.complete.acc identity hid ref.node
  clear hid
  induction hacc generalizing other with
  | intro ref hbelow ih =>
    obtain ⟨place, hplace⟩ := h.symm.allocated htwo
    rw [TypeGraph.verdict_nil (.intro ref hbelow),
      TypeGraph.verdict_nil (htwo.complete.acc identity hplace other.node)]
    apply h.structural_eq hwhole htabled hone htwo
    exact fun child hchild twin halike => ih child hchild halike

end Continued

end Alike

/-! ### Requests -/

def branches (store : Store) : List TypeRef :=
  (List.range store.nextType.index).flatMap fun index =>
    ((store.get? ⟨index⟩).map StoredType.branches).getD []

/-- What was written out at a place is one type. -/
def Placed (store : Store) : Prop :=
  ∀ one ∈ store.branches, ∀ two ∈ store.branches, one.node = two.node → one.node ≠ none →
    one.id = two.id

instance (store : Store) : Decidable store.Placed :=
  inferInstanceAs (Decidable (∀ one ∈ _, ∀ two ∈ _, _ → _ → _))

theorem Whole.mem_branches {store : Store} (hwhole : store.Whole) {ref : TypeRef} :
    ref ∈ store.branches ↔ ∃ id data, store.get? id = some data ∧ ref ∈ data.branches := by
  simp only [branches, List.mem_flatMap, List.mem_range]
  constructor
  · rintro ⟨index, _, href⟩
    cases hget : store.get? ⟨index⟩ with
    | none =>
      rw [hget] at href
      cases href
    | some data =>
      rw [hget] at href
      exact ⟨⟨index⟩, data, hget, href⟩
  · rintro ⟨id, data, hget, href⟩
    refine ⟨id.index, hwhole.allocated_of_get? hget, ?_⟩
    rw [hget]
    exact href

theorem Gains.get?_cases {store later : Store} (h : Gains store later)
    (hget : later.get? id = some data) :
    store.get? id = some data ∨ ∃ members, data = .intersection members := by
  induction h with
  | refl => exact Or.inl hget
  | tail _ hadds ih =>
    rcases hadds.cases with rfl | ⟨members, _, _, rfl⟩
    · exact ih hget
    · rw [get?_intern, get?_register] at hget
      split at hget
      · cases hget
        exact Or.inr ⟨members, rfl⟩
      · exact ih hget

/-- Only intersections are new, so the limit has no more choices than the store it starts from. -/
theorem Chain.placed_limit (chain : Chain) (hwhole : base.Whole) (hplaced : base.Placed)
    (hgains : Gains base (chain.stage 0)) : (chain.limit ownIdentity).Placed where
  identity_injective one two h := Handle.index_injective (congrArg Handle.index h : _)
  branches := by
    have hbranch : ∀ ref, (chain.limit ownIdentity).Branch ref → ref ∈ base.branches := by
      rintro ref ⟨id, whenTrue, whenFalse, hshape, href⟩
      obtain ⟨number, hnumber⟩ := chain.exists_pick (·.Allocated id)
      have hstage : (chain.stage number).shape id = .conditional whenTrue whenFalse := by
        rw [← hnumber]
        exact hshape
      unfold Store.shape at hstage
      split at hstage
      case h_9 type hget =>
        cases hstage
        rcases Gains.get?_cases (hgains.trans (chain.gains_of_le (Nat.zero_le number))) hget with
          hold | ⟨members, hdata⟩
        · exact hwhole.mem_branches.mpr ⟨id, _, hold, href⟩
        · cases hdata
      all_goals cases hstage
    intro one two hone htwo
    exact hplaced one (hbranch one hone) two (hbranch two htwo)

/-- A whole store in which no type is part of itself and every place is of one type. -/
structure Regular (store : Store) : Prop where
  whole : store.Whole
  tabled : store.Tabled
  acyclic : store.Acyclic
  placed : store.Placed

namespace Regular

variable {store later : Store}

theorem of_gains (h : store.Regular) (hgains : Gains store later) : later.Regular where
  whole := Gains.whole hgains h.whole
  tabled := Gains.tabled hgains h.whole h.tabled
  acyclic := Gains.acyclic hgains h.whole parts_subset_mentions h.acyclic
  placed := by
    have hold : ∀ ref ∈ later.branches, ref ∈ store.branches := by
      intro ref href
      obtain ⟨id, data, hget, href⟩ := (Gains.whole hgains h.whole).mem_branches.mp href
      rcases Gains.get?_cases hgains hget with hget | ⟨members, rfl⟩
      · exact h.whole.mem_branches.mpr ⟨id, data, hget, href⟩
      · cases href
    exact fun one hone two htwo => h.placed one (hold one hone) two (hold two htwo)

theorem complete (h : store.Regular) : (store.completion h.whole).Complete :=
  complete_completion h.whole h.tabled h.acyclic

theorem acc (h : store.Regular) (hid : store.Allocated id) (node : Option NodeId) :
    Acc ((store.completion h.whole).limit ownIdentity).Child ⟨id, node⟩ := by
  have hfirst : ((store.completion h.whole).stage 0).Allocated id := hid
  exact h.complete.acc ownIdentity hfirst node

theorem continues (h : store.Regular) (hgains : Gains store later) :
    (later.completion (Gains.whole hgains h.whole)).Continues store :=
  ⟨(h.of_gains hgains).complete, hgains⟩

/-- The verdict of a type, from all that the store may ever come to know. -/
noncomputable def verdict (h : store.Regular) (id : TypeId) : Verdict :=
  ((store.completion h.whole).limit ownIdentity).verdict [] { id }

/-- A request ends over every chain that starts from what the store has. -/
theorem exists_run_limit (h : store.Regular) (chain : Chain) (hgains : Gains store (chain.stage 0))
    (hid : store.Allocated id) (journal : Journal) :
    ∃ steps answer, Machine.run (chain.limit ownIdentity).host [] steps { id } .immutable
        { state := (), journal } = .ok answer ∧
      answer.status = .settled ((chain.limit ownIdentity).verdict [] { id }) := by
  have hplaced := chain.placed_limit h.whole h.placed hgains
  have hstart := h.of_gains hgains
  have hacc := chain.acc_limit ownIdentity hstart.tabled hstart.acyclic
    ((Gains.extends hgains).allocated hid) none
  exact hplaced.exists_run hacc rfl journal

/-- A request over a store ends with the verdict of the type, whatever the store gained before. -/
theorem exists_run_store (h : store.Regular) (hgains : Gains store later) (hid : store.Allocated id)
    (journal : Journal) :
    ∃ steps answer, Machine.run host [] steps { id } .immutable { state := later, journal } =
        .ok answer ∧ answer.status = .settled (h.verdict id) := by
  have hlater := Gains.whole hgains h.whole
  have hroot : later.Allocated id := (Gains.extends hgains).allocated hid
  -- the request ends, since it ends over the limit of the stores it passes through
  obtain ⟨hsited, hopening⟩ := Machine.sited_opening ownIdentity [] { state := later, journal }
    { id } .immutable hlater hroot
  let trail : Chain := ⟨Machine.trail ownIdentity [] { id } .immutable { state := later, journal },
    hsited.whole, hsited.gains_iterate⟩
  obtain ⟨steps, other, hrun, _⟩ :=
    h.exists_run_limit trail (hgains.trans hopening) hid journal
  have htwin : ({ state := (), journal } : Context Unit).cache =
      ({ state := later, journal } : Context Store).cache := rfl
  have htrail := Machine.outcome_run ownIdentity [] .immutable hlater hroot
    (trail.reflects_limit ownIdentity) htwin steps
  obtain ⟨answer, hanswer, _⟩ := Machine.exists_ok_of_outcome htrail hrun
  refine ⟨steps, answer, hanswer, ?_⟩
  -- what it ends with is the verdict over all that the store it leaves may come to know
  have hmore := hgains.trans (Machine.gains_of_ok hlater hroot hanswer)
  have hcontinues := h.continues hmore
  let chain := answer.context.state.completion (Gains.whole hmore h.whole)
  obtain ⟨other, hother, houtcome⟩ := Machine.outcome_of_run hlater hroot hanswer
    (chain.reflects_limit ownIdentity 0) htwin
  obtain ⟨enough, final, hfinal, hstatus⟩ := h.exists_run_limit chain hmore hid journal
  have hunique : other = final := by
    have hmany := Machine.run_ok_of_le hother (Nat.le_max_left steps enough)
    rw [Machine.run_ok_of_le hfinal (Nat.le_max_right steps enough)] at hmany
    exact (Except.ok.inj hmany).symm
  have hanswered : answer.status = final.status := by
    rw [← hunique]
    exact (congrArg Prod.fst houtcome).symm
  rw [hanswered, hstatus]
  congr 1
  exact Alike.verdict_eq h.whole h.tabled hcontinues ⟨h.complete, .refl⟩ (.old hid)

end Regular

end Store

end Immutability
