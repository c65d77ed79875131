import Immutability.Proofs.Bounds
import Immutability.Proofs.DivergedStores
import Immutability.Proofs.StoreQuestions

/-!
# Intersections in intersections

The properties of an intersection can be merged in any grouping: merging what was merged before comes to
the same names in the same order, with the same flags, and with types that are intersections of the same
types in another grouping again. Index signatures are not merged. Those of the members count, but an
intersection that is a member has none of its own, so those of its members are lost in it.

So an intersection may be taken apart inside another one without a change of its verdict, as long as no
index signature gets lost: not one of its own members, and not one of the types that a property has in
several of its members.
-/

set_option autoImplicit false

namespace Immutability

namespace Verdict

theorem joinAll_join_of_mem {verdicts : List Verdict} {verdict : Verdict} (h : verdict ∈ verdicts) :
    (joinAll verdicts).join verdict = joinAll verdicts := by
  induction verdicts with
  | nil => cases h
  | cons first rest ih =>
    have hcons : joinAll (first :: rest) = first.join (joinAll rest) := rfl
    rw [hcons, join_assoc]
    rcases List.mem_cons.mp h with rfl | hrest
    · rw [join_comm (joinAll rest), ← join_assoc, join_self]
    · rw [ih hrest]

theorem joinAll_join_of_subset {verdicts others : List Verdict}
    (h : ∀ verdict ∈ others, verdict ≠ unknown → verdict ∈ verdicts) :
    (joinAll verdicts).join (joinAll others) = joinAll verdicts := by
  induction others with
  | nil => exact join_unknown _
  | cons first rest ih =>
    obtain ⟨hfirst, hrest⟩ := List.forall_mem_cons.mp h
    have hcons : joinAll (first :: rest) = first.join (joinAll rest) := rfl
    rw [hcons, ← join_assoc]
    by_cases hunknown : first = unknown
    · rw [hunknown, join_unknown, ih hrest]
    · rw [joinAll_join_of_mem (hfirst hunknown), ih hrest]

/-- Only which levels occur matters to the greatest of them. -/
theorem joinAll_eq_of_mem_iff {verdicts others : List Verdict}
    (h : ∀ verdict, verdict ≠ unknown → (verdict ∈ verdicts ↔ verdict ∈ others)) :
    joinAll verdicts = joinAll others := by
  rw [← joinAll_join_of_subset fun verdict hmem hknown => (h verdict hknown).mpr hmem, join_comm,
    joinAll_join_of_subset fun verdict hmem hknown => (h verdict hknown).mp hmem]

end Verdict

namespace Store

open PropertyMerge (named named_append named_eq_nil named_of_nodup)

namespace Chain

variable {chain : Chain} {id : TypeId} {members others : List TypeId} {name : String}
  {property other : Property} {identity : TypeId → Identity} {occurrences listed more : List Property}

/-! ### Merging what was merged -/

theorem meets_singleton (chain : Chain) (id : TypeId) : chain.Meets [id] id :=
  ⟨0, by simp [meet?, distinct_eq_eraseDups, List.eraseDups_cons]⟩

theorem names_of_merges {names : List String}
    (h : List.Forall₂ (chain.Merges occurrences) names listed) : listed.map (·.name) = names := by
  induction h with
  | nil => rfl
  | cons hmerges _ ih => rw [List.map_cons, hmerges.name_eq, ih]

theorem exists_merges_of_mem {names : List String}
    (h : List.Forall₂ (chain.Merges occurrences) names listed) (hmem : property ∈ listed) :
    chain.Merges occurrences property.name property := by
  obtain ⟨name, _, hmerges⟩ := exists_of_forall₂ h hmem
  rw [hmerges.name_eq]
  exact hmerges

/-- Members that are repeated make no difference to what is merged. -/
theorem Merges.of_eraseDups {lists : TypeId → List Property}
    (h : chain.Merges (members.eraseDups.flatMap lists) name property) :
    chain.Merges (members.flatMap lists) name property := by
  have hmem : ∀ occurrence, occurrence ∈ named name (members.eraseDups.flatMap lists) ↔
      occurrence ∈ named name (members.flatMap lists) := by
    intro occurrence
    simp only [named, List.mem_filter, List.mem_flatMap, List.mem_eraseDups]
  refine ⟨?_, h.name_eq, ?_, h.meets.congr ?_⟩
  · obtain ⟨first, hfirst⟩ := List.exists_mem_of_ne_nil _ h.occurs
    exact List.ne_nil_of_mem ((hmem first).mp hfirst)
  · rw [h.flags_eq, PropertyFlags.mergeAll_eq_of_mem_iff hmem]
  · simp only [named, List.filter_flatMap, List.map_flatMap]
    exact eraseDups_flatMap_eraseDups _ members

/-- The listing of an intersection merges into itself. -/
theorem Complete.properties_self (h : chain.Complete)
    (hdata : chain.Holds id (.intersection members)) :
    let properties := (chain.limit identity).properties id
    List.Forall₂ (chain.Merges properties) (properties.map (·.name)).eraseDups properties := by
  have hlisting := h.properties_intersection identity hdata
  dsimp only at hlisting ⊢
  have hnames := names_of_merges hlisting
  generalize (chain.limit identity).properties id = properties at hlisting hnames ⊢
  have hnodup : (properties.map (·.name)).Nodup := by
    rw [hnames]
    exact nodup_eraseDups _
  have hsame : (properties.map (·.name)).eraseDups = properties.map (·.name) := by
    rw [hnames, eraseDups_eraseDups]
  rw [hsame, List.forall₂_map_left_iff, List.forall₂_same]
  intro property hproperty
  have hnamed := named_of_nodup hnodup hproperty
  refine ⟨by simp [hnamed], rfl, ?_, ?_⟩
  · rw [hnamed, PropertyFlags.mergeAll_singleton]
  · rw [hnamed]
    exact chain.meets_singleton property.type

/-- An intersection of some types lists their properties, merged name by name. -/
theorem Complete.properties_meets (h : chain.Complete) (identity : TypeId → Identity)
    (hne : members ≠ [])
    (hmeets : chain.Meets members id) (hdata : chain.Holds id (.intersection others)) :
    let occurrences := members.flatMap (chain.limit identity).properties
    List.Forall₂ (chain.Merges occurrences) (occurrences.map (·.name)).eraseDups
      ((chain.limit identity).properties id) := by
  have hnames : ((members.eraseDups.flatMap (chain.limit identity).properties).map
      (·.name)).eraseDups =
      ((members.flatMap (chain.limit identity).properties).map (·.name)).eraseDups := by
    simp only [List.map_flatMap]
    exact eraseDups_flatMap_eraseDups _ members
  dsimp only
  rw [← hnames]
  refine List.Forall₂.imp (fun _ _ => Merges.of_eraseDups) ?_
  rcases h.meets_cases hne hmeets with hsingle | ⟨_, hlong⟩
  · rw [hsingle, List.flatMap_singleton]
    exact h.properties_self hdata
  · exact h.properties_intersection identity hlong

/-! ### Taking an intersection apart -/

/-- Of two types, the first is the intersection of a type and others, and the second the intersection of
those that this type is the intersection of and the others. -/
inductive Renested (chain : Chain) (Good : List TypeId → Prop) : TypeId → TypeId → Prop where
  | same (id : TypeId) : Renested chain Good id id
  | apart {members rest : List TypeId} {inner nested flat : TypeId} :
      Good members → members ≠ [] → chain.Meets members inner →
      chain.Meets (inner :: rest) nested → chain.Meets (members ++ rest) flat →
      Renested chain Good nested flat

/-- Merging in two steps and merging at once give properties that differ in the grouping of their types
only. -/
theorem like_of_merges {Good : List TypeId → Prop}
    (hgood : Good ((named name occurrences).map (·.type)))
    (hinner : List.Forall₂ (chain.Merges occurrences) (occurrences.map (·.name)).eraseDups listed)
    (hone : chain.Merges (listed ++ more) name property)
    (htwo : chain.Merges (occurrences ++ more) name other) :
    Property.Like (chain.Renested Good) property other := by
  have hnames := names_of_merges hinner
  have hflags := hone.flags_eq
  have hflags' := htwo.flags_eq
  have hmeets := hone.meets
  have hmeets' := htwo.meets
  rw [named_append, PropertyFlags.mergeAll_append] at hflags hflags'
  rw [named_append, List.map_append] at hmeets hmeets'
  have hsame := hone.name_eq.trans htwo.name_eq.symm
  by_cases hname : name ∈ occurrences.map (·.name)
  · -- the name was merged into one property before
    obtain ⟨merged, hmem, rfl⟩ : ∃ merged ∈ listed, merged.name = name := by
      rw [← List.mem_map, hnames]
      exact List.mem_eraseDups.mpr hname
    have hmerged := exists_merges_of_mem hinner hmem
    have hnamed : named merged.name listed = [merged] := by
      apply named_of_nodup _ hmem
      rw [hnames]
      exact nodup_eraseDups _
    rw [hnamed, PropertyFlags.mergeAll_singleton, hmerged.flags_eq, ← hflags'] at hflags
    rw [hnamed] at hmeets
    refine ⟨hsame, hflags, .apart hgood ?_ hmerged.meets hmeets hmeets'⟩
    exact fun hnil => hmerged.occurs (List.map_eq_nil_iff.mp hnil)
  · have hnone : name ∉ listed.map (·.name) := by
      rw [hnames, List.mem_eraseDups]
      exact hname
    rw [named_eq_nil hnone] at hflags hmeets
    rw [named_eq_nil hname] at hflags' hmeets'
    refine ⟨hsame, hflags.trans hflags'.symm, ?_⟩
    rw [hmeets.unique hmeets']
    exact .same _

/-- Lists of types whose intersections can be taken apart: none of them has index signatures, nor any of
the types that a property has in them. -/
structure Spreads (chain : Chain) (identity : TypeId → Identity) (Good : List TypeId → Prop) : Prop where
  unindexed : ∀ {members : List TypeId}, Good members → 2 ≤ members.eraseDups.length →
    ∀ member ∈ members, ∀ kind, (chain.limit identity).indexSignature member kind = none
  properties : ∀ {members : List TypeId}, Good members → 2 ≤ members.eraseDups.length → ∀ name,
    Good ((named name (members.flatMap (chain.limit identity).properties)).map (·.type))

variable {inner nested flat : TypeId} {rest sources : List TypeId} {value : TypeRef → Verdict}
  {kind : IndexKind}

/-- Types without index signatures make no difference to what index signatures come to. -/
theorem indexBound_eq_of_mem
    (hsources : ∀ source ∈ sources, source ∈ rest ∨
      (chain.limit identity).indexVerdict value kind source = .unknown)
    (hrest : ∀ source ∈ rest, source ∈ sources ∨
      (chain.limit identity).indexVerdict value kind source = .unknown) :
    (chain.limit identity).indexBound value kind sources =
      (chain.limit identity).indexBound value kind rest := by
  apply Verdict.joinAll_eq_of_mem_iff
  intro verdict hknown
  simp only [List.mem_map]
  constructor
  · rintro ⟨source, hsource, rfl⟩
    exact ⟨source, (hsources source hsource).resolve_right hknown, rfl⟩
  · rintro ⟨source, hsource, rfl⟩
    exact ⟨source, (hrest source hsource).resolve_right hknown, rfl⟩

theorem ne_nil_of_long (hlong : 2 ≤ members.eraseDups.length) : members ≠ [] := by
  rintro rfl
  cases hlong

theorem Complete.holds_of_long (h : chain.Complete) (hlong : 2 ≤ members.eraseDups.length)
    (hmeets : chain.Meets members id) : chain.Holds id (.intersection members.eraseDups) := by
  rcases h.meets_cases (ne_nil_of_long hlong) hmeets with hsingle | ⟨_, hdata⟩
  · rw [hsingle] at hlong
    exact absurd hlong (by simp)
  · exact hdata

/-- What an intersection reads index signatures from that has an intersection among its members. -/
theorem Complete.exists_sources (h : chain.Complete) (hinner : chain.Holds inner (.intersection members))
    (hmembers : ∀ member ∈ members, ∀ kind,
      (chain.limit identity).indexSignature member kind = none)
    (hnested : chain.Meets (inner :: rest) nested) :
    ∃ sources, chain.Holds nested (.intersection sources) ∧ ∀ value kind,
      (chain.limit identity).indexBound value kind sources =
        (chain.limit identity).indexBound value kind rest := by
  have hunknown : ∀ value kind,
      (chain.limit identity).indexVerdict value kind inner = .unknown := by
    intro value kind
    rw [TypeGraph.indexVerdict, hinner.indexSignature_intersection]
  rcases h.meets_cases (List.cons_ne_nil inner rest) hnested with hsingle | ⟨_, hdata⟩
  · -- no other types come in, so the outcome is the inner intersection itself
    have honly : ∀ source ∈ inner :: rest, source = nested := by
      intro source hsource
      rw [← List.mem_eraseDups, hsingle] at hsource
      exact List.mem_singleton.mp hsource
    have hself := honly inner List.mem_cons_self
    refine ⟨members, hself ▸ hinner, fun value kind => indexBound_eq_of_mem ?_ ?_⟩
    · intro source hsource
      right
      rw [TypeGraph.indexVerdict, hmembers source hsource kind]
    · intro source hsource
      right
      rw [honly source (List.mem_cons_of_mem inner hsource), ← hself, hunknown]
  · refine ⟨_, hdata, fun value kind => indexBound_eq_of_mem ?_ ?_⟩
    · intro source hsource
      rcases List.mem_cons.mp (List.mem_eraseDups.mp hsource) with rfl | hsource
      · exact Or.inr (hunknown value kind)
      · exact Or.inl hsource
    · intro source hsource
      exact Or.inl (List.mem_eraseDups.mpr (List.mem_cons_of_mem inner hsource))

theorem eraseDups_of_single (hsingle : members.eraseDups = [inner]) :
    (inner :: rest).eraseDups = (members ++ rest).eraseDups := by
  rw [← eraseDups_eraseDups_append members, hsingle]
  rfl

theorem length_eraseDups_append_le :
    members.eraseDups.length ≤ (members ++ rest).eraseDups.length := by
  rw [List.eraseDups_append, List.length_append]
  exact Nat.le_add_right _ _

/-- The properties of the two groupings are alike, up to regrouping. -/
theorem Complete.listing_renested {Good : List TypeId → Prop} (h : chain.Complete)
    (hspreads : chain.Spreads identity Good) (hgood : Good members)
    (hlong : 2 ≤ members.eraseDups.length) (hinner : chain.Meets members inner)
    (hnested : chain.Meets (inner :: rest) nested)
    (hdata : chain.Holds nested (.intersection sources))
    (hflat : chain.Meets (members ++ rest) flat) :
    List.Forall₂ (Property.Like (chain.Renested Good)) ((chain.limit identity).properties nested)
      ((chain.limit identity).properties flat) := by
  have hall : 2 ≤ (members ++ rest).eraseDups.length :=
    Nat.le_trans hlong length_eraseDups_append_le
  have hlisted := h.properties_meets identity (ne_nil_of_long hlong) hinner
    (h.holds_of_long hlong hinner)
  have hone := h.properties_meets identity (List.cons_ne_nil inner rest) hnested hdata
  have htwo := h.properties_meets identity (ne_nil_of_long hall) hflat
    (h.holds_of_long hall hflat)
  dsimp only at hlisted hone htwo
  rw [List.flatMap_cons] at hone
  rw [List.flatMap_append] at htwo
  have hnames : (((chain.limit identity).properties inner ++
      rest.flatMap (chain.limit identity).properties).map (·.name)).eraseDups =
      ((members.flatMap (chain.limit identity).properties ++
        rest.flatMap (chain.limit identity).properties).map (·.name)).eraseDups := by
    rw [List.map_append, List.map_append, names_of_merges hlisted, eraseDups_eraseDups_append]
  rw [hnames] at hone
  refine forall₂_of_common ?_ hone htwo
  intro name property other hproperty hother
  exact like_of_merges (hspreads.properties hgood hlong name) hlisted hproperty hother

/-- An intersection that is taken apart inside another one leaves the structure as it is. -/
theorem Complete.structural_renested {Good : List TypeId → Prop} (h : chain.Complete)
    (hspreads : chain.Spreads identity Good) (hgood : Good members)
    (hlong : 2 ≤ members.eraseDups.length) (hinner : chain.Meets members inner)
    (hnested : chain.Meets (inner :: rest) nested) (hflat : chain.Meets (members ++ rest) flat)
    (hvalue : ∀ child ∈ (chain.limit identity).children nested, ∀ other : TypeRef,
      chain.Renested Good child.id other.id → value child = value other) :
    (chain.limit identity).structural value nested = (chain.limit identity).structural value flat := by
  have hinnerData := h.holds_of_long hlong hinner
  have hflatData := h.holds_of_long (Nat.le_trans hlong length_eraseDups_append_le) hflat
  have hunindexed := hspreads.unindexed hgood hlong
  obtain ⟨sources, hnestedData, hsources⟩ := h.exists_sources hinnerData
    (fun member hmember => hunindexed member (List.mem_eraseDups.mp hmember)) hnested
  rw [TypeGraph.children, hnestedData.shape_intersection] at hvalue
  rw [TypeGraph.structural, TypeGraph.structural, hnestedData.shape_intersection,
    hflatData.shape_intersection]
  refine congrArg Verdict.known (TypeGraph.surfaceLevel_of_like ?_ ?_ ?_ .immutable false)
  · have hlisting := h.listing_renested hspreads hgood hlong hinner hnested hnestedData hflat
    refine forall₂_imp_of_mem hlisting fun property hproperty other hlike => ?_
    refine ⟨hlike.name, hlike.flags, hvalue _ (mem_bare.mpr ⟨rfl, ?_⟩) _ hlike.type⟩
    exact List.mem_append_left _ (List.mem_map_of_mem hproperty)
  · rw [TypeGraph.argumentBound, TypeGraph.argumentBound, hnestedData.isReference_intersection,
      hflatData.isReference_intersection]
    rfl
  · intro kind
    rw [hsources]
    refine (indexBound_eq_of_mem ?_ ?_).symm
    · intro source hsource
      rcases List.mem_append.mp (List.mem_eraseDups.mp hsource) with hmember | hrest
      · right
        rw [TypeGraph.indexVerdict, hunindexed source hmember]
      · exact Or.inl hrest
    · intro source hsource
      exact Or.inl (List.mem_eraseDups.mpr (List.mem_append_right members hsource))

/-- The verdict does not depend on the grouping. -/
theorem Complete.verdict_renested {Good : List TypeId → Prop} (h : chain.Complete)
    (hspreads : chain.Spreads identity Good) {ref other : TypeRef}
    (hacc : Acc (chain.limit identity).Child ref) (hrenested : chain.Renested Good ref.id other.id) :
    (chain.limit identity).verdict [] ref = (chain.limit identity).verdict [] other := by
  -- the induction is on what lies below the first type: pairs of property types are renested again
  induction hacc generalizing other with
  | intro ref hbelow ih =>
    generalize hnestedId : ref.id = nested at hrenested
    generalize hflatId : other.id = flat at hrenested
    cases hrenested with
    | same => exact TypeGraph.verdict_of_id (hnestedId.trans hflatId.symm)
    | @apart members rest inner _ _ hgood hne hinner hnested hflat =>
      rcases h.meets_cases hne hinner with hsingle | ⟨hlong, _⟩
      · have hsame := (hnested.congr (eraseDups_of_single hsingle)).unique hflat
        exact TypeGraph.verdict_of_id (hnestedId.trans (hsame.trans hflatId.symm))
      · obtain ⟨number, hget⟩ := h.holds_of_long (Nat.le_trans hlong length_eraseDups_append_le) hflat
        have hallocated := (chain.whole_stage number).allocated_of_get? hget
        rw [← hflatId] at hallocated
        rw [TypeGraph.verdict_nil (.intro ref hbelow),
          TypeGraph.verdict_nil (h.acc identity hallocated other.node), hnestedId, hflatId]
        apply h.structural_renested hspreads hgood hlong hinner hnested hflat
        intro child hchild twin halike
        rw [← hnestedId] at hchild
        exact ih child hchild halike

/-! ### Types that a property has in several types -/

/-- A type that is the intersection of some types, or of such intersections. -/
inductive Over (chain : Chain) (types : Set TypeId) : TypeId → Prop where
  | of_mem {id : TypeId} : id ∈ types → Over chain types id
  | of_members {id : TypeId} {members : List TypeId} :
      chain.Holds id (.intersection members) → members.Nodup → 2 ≤ members.length →
      (∀ member ∈ members, Over chain types member) → Over chain types id

variable {types wider : Set TypeId}

theorem Over.mono (h : chain.Over types id) (hsub : types ⊆ wider) : chain.Over wider id := by
  induction h with
  | of_mem hmem => exact .of_mem (hsub hmem)
  | of_members hdata hnodup hlong _ ih => exact .of_members hdata hnodup hlong ih

theorem Over.of_meets (h : chain.Complete) (hne : members ≠ []) (hmeets : chain.Meets members id)
    (hmembers : ∀ member ∈ members, chain.Over types member) : chain.Over types id := by
  rcases h.meets_cases hne hmeets with hsingle | ⟨hlong, hdata⟩
  · apply hmembers id
    rw [← List.mem_eraseDups, hsingle]
    exact List.mem_singleton_self id
  · refine .of_members hdata (nodup_eraseDups members) hlong ?_
    exact fun member hmember => hmembers member (List.mem_eraseDups.mp hmember)

theorem exists_ne_of_nodup (hnodup : members.Nodup) (hlong : 2 ≤ members.length) :
    ∃ one ∈ members, ∃ two ∈ members, one ≠ two := by
  rcases members with _ | ⟨one, _ | ⟨two, rest⟩⟩
  · cases hlong
  · exact absurd hlong (by simp)
  · refine ⟨one, List.mem_cons_self, two, List.mem_cons_of_mem _ List.mem_cons_self, ?_⟩
    rintro rfl
    exact (List.nodup_cons.mp hnodup).1 List.mem_cons_self

/-- Of one type alone there are no intersections. -/
theorem Over.mem_of_subsingleton (hsub : types.Subsingleton) (h : chain.Over types id) :
    id ∈ types := by
  induction h with
  | of_mem hmem => exact hmem
  | of_members _ hnodup hlong _ ih =>
    obtain ⟨one, hone, two, htwo, hne⟩ := exists_ne_of_nodup hnodup hlong
    exact absurd (hsub (ih one hone) (ih two htwo)) hne

end Chain

/-- The types that a property has in some types, in their members, and so on. -/
def typesOf (store : Store) (types : Set TypeId) (name : String) : Set TypeId :=
  { type | ∃ whole ∈ types, ∃ object data, Relation.ReflTransGen store.Member whole object ∧
    store.get? object = some data ∧
    ∃ property ∈ data.properties, property.name = name ∧ property.type = type }

variable {base : Store} {chain : Chain} {id : TypeId} {members : List TypeId} {types : Set TypeId}
  {identity : TypeId → Identity}

theorem typesOf_mono {store : Store} {more : Set TypeId} {name : String}
    (h : ∀ type ∈ types, ∃ whole ∈ more, Relation.ReflTransGen store.Member whole type) :
    store.typesOf types name ⊆ store.typesOf more name := by
  rintro type ⟨member, hmember, object, data, hpath, hrest⟩
  obtain ⟨whole, hwhole, hbefore⟩ := h member hmember
  exact ⟨whole, hwhole, object, data, hbefore.trans hpath, hrest⟩

theorem Whole.allocated_of_typesOf (hwhole : base.Whole) {name : String} {type : TypeId}
    (h : type ∈ base.typesOf types name) : base.Allocated type := by
  obtain ⟨_, _, object, data, _, hget, property, hproperty, _, rfl⟩ := h
  exact hwhole.closed.types object data hget _ (StoredType.type_mem_mentions hproperty)

/-- If the properties of the members are intersections of some types, so are those of the whole. -/
theorem Chain.Complete.over_of_members (h : chain.Complete) (sources : String → Set TypeId)
    (hdata : chain.Holds id (.intersection members))
    (hmembers : ∀ member ∈ members, ∀ property ∈ (chain.limit identity).properties member,
      chain.Over (sources property.name) property.type) :
    ∀ property ∈ (chain.limit identity).properties id,
      chain.Over (sources property.name) property.type := by
  intro property hproperty
  have hlisting := h.properties_intersection identity hdata
  have hmerges := Chain.exists_merges_of_mem hlisting hproperty
  refine Chain.Over.of_meets h (fun hnil => hmerges.occurs (List.map_eq_nil_iff.mp hnil))
    hmerges.meets ?_
  intro type htype
  obtain ⟨occurrence, hoccurrence, rfl⟩ := List.mem_map.mp htype
  obtain ⟨hoccurrence, hname⟩ := List.mem_filter.mp hoccurrence
  obtain ⟨member, hmember, hlisted⟩ := List.mem_flatMap.mp hoccurrence
  rw [← beq_iff_eq.mp hname]
  exact hmembers member hmember occurrence hlisted

/-- The properties of an old type are intersections of the types that they have in its members. -/
theorem Chain.Continues.over_typesOf (h : chain.Continues base) (hwhole : base.Whole)
    (hid : base.Allocated id) :
    ∀ property ∈ (chain.limit identity).properties id,
      chain.Over (base.typesOf {id} property.name) property.type := by
  obtain ⟨later, properties, hsettled⟩ :=
    h.complete.settles 0 id ((Gains.extends h.gains).allocated hid)
  induction hsettled with
  | @plain id data hget hplain =>
    have hold := (h.holds_iff hid).mp ⟨later, hget⟩
    rw [(h.reflects hwhole identity).properties _ _ (.plain hold hplain)]
    intro property hproperty
    exact .of_mem ⟨id, rfl, id, data, .refl, hold, property, hproperty, rfl, rfl⟩
  | @merged id members lists properties hget _ _ ih =>
    have hold := (h.holds_iff hid).mp ⟨later, hget⟩
    refine h.complete.over_of_members (base.typesOf {id}) ⟨later, hget⟩ ?_
    intro member hmember property hproperty
    have hover := ih member hmember (hwhole.closed.types id _ hold member hmember) property hproperty
    apply hover.mono
    apply typesOf_mono
    rintro _ rfl
    exact ⟨id, rfl, .single ⟨_, hold, hmember⟩⟩

theorem Chain.Continues.over_properties (h : chain.Continues base) (hwhole : base.Whole)
    (htypes : ∀ type ∈ types, base.Allocated type) (hover : chain.Over types id) :
    ∀ property ∈ (chain.limit identity).properties id,
      chain.Over (base.typesOf types property.name) property.type := by
  induction hover with
  | @of_mem id hmem =>
    intro property hproperty
    apply (h.over_typesOf hwhole (htypes id hmem) property hproperty).mono
    apply typesOf_mono
    rintro _ rfl
    exact ⟨_, hmem, .refl⟩
  | of_members hdata _ _ _ ih =>
    exact h.complete.over_of_members (base.typesOf types) hdata ih

/-! ### Intersections without index signatures inside -/

/-- Different types that come together in an intersection of some types: the types themselves, and those
that a property has in types that come together. -/
inductive Together (store : Store) (members : List TypeId) : Set TypeId → Prop where
  | members : { type | type ∈ members }.Nontrivial → Together store members { type | type ∈ members }
  | property {types : Set TypeId} {name : String} : Together store members types →
      (store.typesOf types name).Nontrivial → Together store members (store.typesOf types name)

/-- No type that comes together with others in an intersection of these has an index signature. -/
def Unindexed (store : Store) (members : List TypeId) : Prop :=
  ∀ types, store.Together members types → ∀ type ∈ types, ∀ kind,
    store.indexSignature type kind = none

/-- The members of an intersection, or the types that a property has in them. -/
def Joined (base : Store) (chain : Chain) (members : List TypeId) (others : List TypeId) : Prop :=
  ∃ types : Set TypeId, (∀ type ∈ types, base.Allocated type) ∧
    (∀ other ∈ others, chain.Over types other) ∧ (types.Nontrivial → base.Together members types)

theorem Chain.Continues.spreads (h : chain.Continues base) (hwhole : base.Whole)
    (hunindexed : base.Unindexed members) (identity : TypeId → Identity) :
    chain.Spreads identity (base.Joined chain members) := by
  have htogether : ∀ {others : List TypeId} {types : Set TypeId}, 2 ≤ others.eraseDups.length →
      (∀ other ∈ others, chain.Over types other) →
      (types.Nontrivial → base.Together members types) → base.Together members types := by
    intro others types hlong hover hnontrivial
    apply hnontrivial
    rw [← Set.not_subsingleton_iff]
    intro hsub
    obtain ⟨one, hone, two, htwo, hne⟩ := Chain.exists_ne_of_nodup (nodup_eraseDups others) hlong
    exact hne (hsub ((hover one (List.mem_eraseDups.mp hone)).mem_of_subsingleton hsub)
      ((hover two (List.mem_eraseDups.mp htwo)).mem_of_subsingleton hsub))
  constructor
  · rintro others ⟨types, htypes, hover, hnontrivial⟩ hlong other hother kind
    cases hover other hother with
    | of_mem hmem =>
      rw [(h.reflects hwhole identity).indexSignature other kind (htypes other hmem)]
      exact hunindexed types (htogether hlong hover hnontrivial) other hmem kind
    | of_members hdata => exact hdata.indexSignature_intersection kind
  · rintro others ⟨types, htypes, hover, hnontrivial⟩ hlong name
    refine ⟨base.typesOf types name, fun type htype => hwhole.allocated_of_typesOf htype, ?_, ?_⟩
    · intro type htype
      obtain ⟨property, hproperty, rfl⟩ := List.mem_map.mp htype
      obtain ⟨hproperty, hname⟩ := List.mem_filter.mp hproperty
      obtain ⟨other, hother, hlisted⟩ := List.mem_flatMap.mp hproperty
      rw [← beq_iff_eq.mp hname]
      exact h.over_properties hwhole htypes (hover other hother) property hlisted
    · exact .property (htogether hlong hover hnontrivial)

/-- No index signature gets lost if none is found below the members, going from intersections to their
members and from objects to the types of their properties. -/
theorem unindexed_of_below {store : Store} (below : List TypeId) (hmembers : members ⊆ below)
    (hbelow : ∀ id ∈ below, ∀ child ∈ ((store.get? id).map fun data =>
      data.members ++ data.properties.map (·.type)).getD [], child ∈ below)
    (hnone : ∀ id ∈ below,
      store.indexSignature id .string = none ∧ store.indexSignature id .number = none) :
    store.Unindexed members := by
  have hchild : ∀ {id child data}, id ∈ below → store.get? id = some data →
      child ∈ data.members ++ data.properties.map (·.type) → child ∈ below := by
    intro id child data hid hget hmem
    apply hbelow id hid child
    rw [hget]
    exact hmem
  have hreach : ∀ {whole object}, whole ∈ below → Relation.ReflTransGen store.Member whole object →
      object ∈ below := by
    intro whole object hwhole hpath
    induction hpath with
    | refl => exact hwhole
    | tail _ hlink ih =>
      obtain ⟨data, hget, hmember⟩ := hlink
      exact hchild ih hget (List.mem_append_left _ hmember)
  have hall : ∀ types, store.Together members types → ∀ type ∈ types, type ∈ below := by
    intro types htogether
    induction htogether with
    | members => exact fun type htype => hmembers htype
    | property _ _ ih =>
      rintro _ ⟨whole, hwhole, object, data, hpath, hget, property, hproperty, _, rfl⟩
      exact hchild (hreach (ih whole hwhole) hpath) hget
        (List.mem_append_right _ (List.mem_map_of_mem hproperty))
  intro types htogether type htype kind
  obtain ⟨hstring, hnumber⟩ := hnone type (hall types htogether type htype)
  cases kind with
  | string => exact hstring
  | number => exact hnumber

variable {store : Store} {rest : List TypeId}

theorem Whole.gains_intersection (hwhole : store.Whole)
    (hmembers : ∀ member ∈ members, store.Allocated member) :
    Gains store (store.intersection members).2 ∧
      (store.intersection members).2.Allocated (store.intersection members).1 := by
  have hadds : Adds store (store.intersection members).2 := ⟨members, hmembers, rfl⟩
  refine ⟨.single hadds, (hadds.whole hwhole).allocated_of_meet? ?_ (store.meet?_intersection members)⟩
  exact fun member hmember => hadds.extends.allocated (hmembers member hmember)

/-- An intersection in an intersection has the verdict of the two taken together. -/
theorem Regular.verdict_regrouped (h : store.Regular) (hgains : Gains base store) (hwhole : base.Whole)
    (hmembers : ∀ member ∈ members, base.Allocated member) (hne : members ≠ [])
    (hunindexed : base.Unindexed members) {inner nested flat : TypeId}
    (hinner : store.meet? members = some inner) (hnested : store.meet? (inner :: rest) = some nested)
    (hflat : store.meet? (members ++ rest) = some flat) (hid : store.Allocated nested) :
    h.verdict nested = h.verdict flat := by
  have hcontinues : (store.completion h.whole).Continues base := ⟨h.complete, hgains⟩
  have hjoined : base.Joined (store.completion h.whole) members members :=
    ⟨{ type | type ∈ members }, hmembers, fun _ hmember => .of_mem hmember, .members⟩
  refine h.complete.verdict_renested (hcontinues.spreads hwhole hunindexed ownIdentity)
    (h.acc hid none) ?_
  exact .apart hjoined hne ⟨0, hinner⟩ ⟨0, hnested⟩ ⟨0, hflat⟩

namespace History

open Relation (ReflTransGen)

variable {history : History} {program : Program}

theorem tabled_of_history (h : ReflTransGen Step (start program) history) : history.store.Tabled := by
  have hcoherent := coherent_of_history h
  intro members id hid
  refine hcoherent.orderly.fits _ id hid ?_
  -- the handles under way belong to references
  intro hopen
  obtain ⟨asked, hasked, rfl⟩ := List.mem_map.mp (List.mem_append.mp hopen |>.resolve_left nofun)
  obtain ⟨_, _, _, _, _, hreference⟩ := hcoherent.recorded.opened asked hasked
  cases hcoherent.orderly.injective _ _ _ hid hreference

theorem regular_of_history (h : ReflTransGen Step (start program) history)
    (hclosed : history.store.Closed) (hacyclic : history.store.Acyclic)
    (hplaced : history.store.Placed) : history.store.Regular where
  whole := by
    have hreworks : ReflTransGen Reworks (start program) history :=
      h.lift (fun history => history) fun _ _ step => .step step
    refine whole_of_reworks hreworks hclosed fun id hpath => ?_
    refine hacyclic id (hpath.lift (fun id => id) fun _ _ hlink => hlink.mono fun data => ?_)
    cases data with
    | intersection members => exact List.Subset.refl members
    | _ => exact List.nil_subset _
  tabled := tabled_of_history h
  acyclic := hacyclic
  placed := hplaced

/-- In a store without cycles that mentions allocated types only and in which every place is of one type,
take the intersection of some types, at least one of them, into an intersection with others. If no index
signature gets lost in it, a request without rules for the outcome and a request for the intersection of
all the types at once end with the same verdict, whatever was asked before. -/
theorem regrouping_of_history (program : Program) (history : History)
    (h : ReflTransGen Step (start program) history) (hclosed : history.store.Closed)
    (hacyclic : history.store.Acyclic) (hplaced : history.store.Placed) (members rest : List TypeId)
    (hallocated : ∀ id ∈ members ++ rest, history.store.Allocated id) (hne : members ≠ [])
    (hunindexed : history.store.Unindexed members) :
    let inner := history.store.intersection members
    let nested := inner.2.intersection (inner.1 :: rest)
    let flat := nested.2.intersection (members ++ rest)
    ∃ verdict, ∀ (queries : List Host.Query) (journal : Journal),
      let later := Host.Query.askAll host flat.2 queries
      ∃ steps one two,
        Machine.run host [] steps { id := nested.1 } .immutable { state := later, journal } = .ok one ∧
        Machine.run host [] steps { id := flat.1 } .immutable { state := later, journal } = .ok two ∧
        one.status = .settled verdict ∧ two.status = .settled verdict := by
  intro inner nested flat
  have hregular := regular_of_history h hclosed hacyclic hplaced
  obtain ⟨hmembers, hrest⟩ := List.forall_mem_append.mp hallocated
  -- the store gains three intersections
  obtain ⟨hfirst, hinnerId⟩ := hregular.whole.gains_intersection hmembers
  have hrest' := fun id hid => (Gains.extends hfirst).allocated (hrest id hid)
  obtain ⟨hsecond, hnestedId⟩ := (Gains.whole hfirst hregular.whole).gains_intersection
    (List.forall_mem_cons.mpr ⟨hinnerId, hrest'⟩)
  have hboth := hfirst.trans hsecond
  obtain ⟨hthird, hflatId⟩ := (Gains.whole hboth hregular.whole).gains_intersection
    fun id hid => (Gains.extends hboth).allocated (hallocated id hid)
  have hflat : flat.2.Regular := hregular.of_gains (hboth.trans hthird)
  have hinner : flat.2.meet? members = some inner.1 :=
    (Gains.extends (hsecond.trans hthird)).meet? (meet?_intersection _ _)
  have hnested : flat.2.meet? (inner.1 :: rest) = some nested.1 :=
    (Gains.extends hthird).meet? (meet?_intersection _ _)
  have hsame : hflat.verdict nested.1 = hflat.verdict flat.1 :=
    hflat.verdict_regrouped (hboth.trans hthird) hregular.whole hmembers hne hunindexed hinner hnested
      (meet?_intersection _ _) ((Gains.extends hthird).allocated hnestedId)
  refine ⟨hflat.verdict flat.1, fun queries journal => ?_⟩
  have hasked := gains_askAll ownIdentity hflat.whole queries
  obtain ⟨steps, one, hone, hstatus⟩ :=
    hflat.exists_run_store hasked ((Gains.extends hthird).allocated hnestedId) journal
  obtain ⟨more, two, htwo, hstatus'⟩ := hflat.exists_run_store hasked hflatId journal
  exact ⟨max steps more, one, two, Machine.run_ok_of_le hone (Nat.le_max_left steps more),
    Machine.run_ok_of_le htwo (Nat.le_max_right steps more), hsame ▸ hstatus, hstatus'⟩

def built (calls : List Call) : History := calls.foldl answer (start defaultProgram)

theorem built_reachable {calls : List Call} (h : ∀ call ∈ calls, ∀ store, call.Direct store) :
    ReflTransGen Step (start defaultProgram) (built calls) := by
  induction calls using List.reverseRecOn with
  | nil => exact .refl
  | append_singleton calls last ih =>
    obtain ⟨hcalls, hlast⟩ := List.forall_mem_append.mp h
    rw [built, List.foldl_append]
    exact .tail (ih hcalls) (.answer last (hlast last (List.mem_singleton_self last) _))

/-- Two boxes whose contents differ, and one with a dictionary and with something that was written out
twice at one place. -/
def boxes : History := built
  [.record [.readonly "size" Intrinsic.number.id],
   .record [.readonly "size" Intrinsic.string.id],
   .object { stringIndex := some { value := Intrinsic.number.id, readonly := true } },
   .conditional { check := Intrinsic.unknown.id, extended := Intrinsic.string.id,
                  whenTrue := ⟨⟨14⟩, some ⟨1⟩⟩, whenFalse := ⟨⟨14⟩, some ⟨1⟩⟩ },
   .record [.readonly "content" ⟨14⟩],
   .record [.readonly "content" ⟨15⟩],
   .record [.readonly "content" ⟨16⟩, .readonly "label" ⟨17⟩]]

theorem boxes_reachable : ReflTransGen Step (start defaultProgram) boxes := by
  apply built_reachable
  simp [Call.Direct]

/-- The contents of the first two boxes are merged before the dictionary comes in, or all at once. -/
theorem boxes_regrouping :
    let inner := boxes.store.intersection [⟨18⟩, ⟨19⟩]
    let nested := inner.2.intersection [inner.1, ⟨20⟩]
    let flat := nested.2.intersection [⟨18⟩, ⟨19⟩, ⟨20⟩]
    inner.1 = ⟨21⟩ ∧ nested.1 = ⟨22⟩ ∧ flat.1 = ⟨23⟩ ∧
    ∃ verdict, ∀ (queries : List Host.Query) (journal : Journal),
      let later := Host.Query.askAll host flat.2 queries
      ∃ steps one two,
        Machine.run host [] steps { id := nested.1 } .immutable { state := later, journal } = .ok one ∧
        Machine.run host [] steps { id := flat.1 } .immutable { state := later, journal } = .ok two ∧
        one.status = .settled verdict ∧ two.status = .settled verdict := by
  have horderly := (coherent_of_history boxes_reachable).orderly
  have hlayered : boxes.store.Layered := by decide +kernel
  refine ⟨by decide +kernel, by decide +kernel, by decide +kernel, ?_⟩
  exact regrouping_of_history defaultProgram boxes boxes_reachable
    (hlayered.closed horderly (by decide +kernel)) (hlayered.acyclic horderly parts_subset_mentions)
    (by decide +kernel) [⟨18⟩, ⟨19⟩] [⟨20⟩] (by unfold Allocated; decide +kernel) (by simp)
    (unindexed_of_below [⟨18⟩, ⟨19⟩, ⟨14⟩, ⟨15⟩, Intrinsic.number.id, Intrinsic.string.id]
      (by decide) (by decide +kernel) (by decide +kernel))

/-- A dictionary that can be assigned to, and two empty objects. -/
def dictionary : History := built
  [.object { stringIndex := some { value := Intrinsic.number.id, readonly := false } },
   .record [],
   .record []]

theorem dictionary_reachable : ReflTransGen Step (start defaultProgram) dictionary := by
  apply built_reachable
  simp [Call.Direct]

def optional (type : TypeRef) : Call := .conditional
  { check := Intrinsic.unknown.id, extended := Intrinsic.string.id, whenTrue := type,
    whenFalse := { id := Intrinsic.null.id } }

def readonlyDictionary (value : TypeId) : Call := .object
  { stringIndex := some { value, readonly := true } }

/-- Two different types were written out at the same place: `⟨16⟩`, and `⟨14⟩` in a choice `⟨15⟩` inside of
it. So the choice is judged without `⟨14⟩` at first, and differently once it is asked for at another
place. The intersection `⟨29⟩` is what the property `p` comes to if the first two of the last three objects
are merged before. -/
def misplaced : History := built
  [.record [{ name := "x", type := Intrinsic.number.id }],
   optional ⟨⟨14⟩, some ⟨7⟩⟩,
   .record [.readonly "t" ⟨15⟩, .readonly "m" ⟨14⟩],
   optional ⟨⟨16⟩, some ⟨7⟩⟩,
   readonlyDictionary ⟨17⟩,
   readonlyDictionary Intrinsic.null.id,
   .intersection [⟨18⟩, ⟨19⟩],
   optional { id := ⟨20⟩ },
   optional ⟨⟨15⟩, some ⟨3⟩⟩,
   readonlyDictionary ⟨22⟩,
   .intersection [⟨23⟩, ⟨19⟩],
   .record [.readonly "t" ⟨15⟩],
   .record [.readonly "u" Intrinsic.number.id],
   .record [.readonly "w" Intrinsic.number.id],
   .intersection [⟨25⟩, ⟨26⟩],
   .intersection [⟨28⟩, ⟨27⟩],
   .record [.readonly "q" ⟨21⟩, .readonly "p" ⟨25⟩],
   .record [.readonly "p" ⟨26⟩],
   .record [.readonly "p" ⟨27⟩, .readonly "r" ⟨24⟩, .readonly "s" ⟨29⟩]]

theorem misplaced_reachable : ReflTransGen Step (start defaultProgram) misplaced := by
  apply built_reachable
  simp [Call.Direct, optional, readonlyDictionary]

/-- The dictionary gets lost in an intersection, so the outcome is not mutable any more. And where a place
is of two types, what is found at it depends on what was judged before, so the outcome may differ although
no index signature gets lost. -/
theorem regrouping_changes_verdict :
    (dictionary.store.Closed ∧ dictionary.store.Acyclic ∧ dictionary.store.Placed ∧
      let inner := dictionary.store.intersection [⟨14⟩, ⟨15⟩]
      let nested := inner.2.intersection [inner.1, ⟨16⟩]
      let flat := nested.2.intersection [⟨14⟩, ⟨15⟩, ⟨16⟩]
      (Machine.run host [] 60 { id := nested.1 } .immutable { state := flat.2 }).toOption.map
        (·.status) = some (.known .immutable) ∧
      (Machine.run host [] 60 { id := flat.1 } .immutable { state := flat.2 }).toOption.map
        (·.status) = some (.known .mutable)) ∧
    misplaced.store.Closed ∧ misplaced.store.Acyclic ∧ misplaced.store.Unindexed [⟨30⟩, ⟨31⟩] ∧
      let inner := misplaced.store.intersection [⟨30⟩, ⟨31⟩]
      let nested := inner.2.intersection [inner.1, ⟨32⟩]
      let flat := nested.2.intersection [⟨30⟩, ⟨31⟩, ⟨32⟩]
      (Machine.run host [] 200 { id := nested.1 } .immutable { state := flat.2 }).toOption.map
        (·.status) = some (.known .immutable) ∧
      (Machine.run host [] 200 { id := flat.1 } .immutable { state := flat.2 }).toOption.map
        (·.status) = some (.known .readonlyShallow) := by
  have hdictionary := (coherent_of_history dictionary_reachable).orderly
  have hmisplaced := (coherent_of_history misplaced_reachable).orderly
  have hone : dictionary.store.Layered := by decide +kernel
  have htwo : misplaced.store.Layered := by decide +kernel
  refine ⟨⟨hone.closed hdictionary (by decide +kernel), hone.acyclic hdictionary parts_subset_mentions,
    by decide +kernel, by decide +kernel, by decide +kernel⟩,
    htwo.closed hmisplaced (by decide +kernel), htwo.acyclic hmisplaced parts_subset_mentions, ?_,
    by decide +kernel, by decide +kernel⟩
  exact unindexed_of_below [⟨30⟩, ⟨31⟩, ⟨21⟩, ⟨25⟩, ⟨26⟩, ⟨15⟩, Intrinsic.number.id]
    (by decide) (by decide +kernel) (by decide +kernel)

end History

end Store

end Immutability
