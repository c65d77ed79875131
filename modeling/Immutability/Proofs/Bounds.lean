import Immutability.Proofs.Structure

/-!
# Verdicts from below

Verdicts are ordered by level, with an unknown one on top: it constrains nothing, so it is the most that
can be said for a type. A type met again while it is under way answers with it.

`le_of_walk` says that a walk whose replies are no lower than an assignment ends no lower than the
structure of the type calls for under the assignment. Minima, caps and the clamp of an index value are
monotone in this order. Taking the greatest of several index signatures is not, since an unknown value
leaves the others to decide. So the statement is about types of which at most one declares an index
signature of each kind, and such a greatest verdict is that of the one.
-/

set_option autoImplicit false

namespace Immutability

namespace Verdict

protected def le : Verdict → Verdict → Prop
  | _, unknown => True
  | unknown, known _ => False
  | known a, known b => a ≤ b

instance : LE Verdict := ⟨Verdict.le⟩

instance : DecidableLE Verdict
  | unknown, unknown => .isTrue trivial
  | known _, unknown => .isTrue trivial
  | unknown, known _ => .isFalse id
  | known a, known b => inferInstanceAs (Decidable (a ≤ b))

theorem le_unknown (a : Verdict) : a ≤ unknown := by cases a <;> trivial

theorem known_le_known {a b : Level} : known a ≤ known b ↔ a ≤ b := Iff.rfl

theorem not_unknown_le_known (b : Level) : ¬ unknown ≤ known b := id

instance : Preorder Verdict where
  le_refl a := by
    cases a with
    | unknown => trivial
    | known level => exact Level.le_refl level
  le_trans a b c hab hbc := by
    cases c with
    | unknown => exact le_unknown a
    | known high =>
      cases b with
      | unknown => exact absurd hbc (not_unknown_le_known high)
      | known middle =>
        cases a with
        | unknown => exact absurd hab (not_unknown_le_known middle)
        | known low => exact Level.le_trans (known_le_known.mp hab) (known_le_known.mp hbc)

variable {a b c d : Verdict}

protected theorem le_antisymm (hab : a ≤ b) (hba : b ≤ a) : a = b := by
  cases a with
  | unknown =>
    cases b with
    | unknown => rfl
    | known level => exact absurd hab (not_unknown_le_known level)
  | known low =>
    cases b with
    | unknown => exact absurd hba (not_unknown_le_known low)
    | known high => exact congrArg known (Level.le_antisymm hab hba)

theorem le_meet (hb : a ≤ b) (hc : a ≤ c) : a ≤ b.meet c := by
  cases b with
  | unknown => exact hc
  | known low =>
    cases c with
    | unknown => exact hb
    | known high =>
      cases a with
      | unknown => exact absurd hb (not_unknown_le_known low)
      | known level => exact known_le_known.mpr (le_min hb hc)

theorem meet_le_left (a b : Verdict) : a.meet b ≤ a := by
  cases a with
  | unknown => exact le_unknown _
  | known low =>
    cases b with
    | unknown => exact le_refl _
    | known high => exact known_le_known.mpr (min_le_left low high)

theorem meet_le_right (a b : Verdict) : a.meet b ≤ b := by
  rw [meet_comm]
  exact meet_le_left b a

theorem meet_le_meet (hab : a ≤ b) (hcd : c ≤ d) : a.meet c ≤ b.meet d :=
  le_meet ((meet_le_left a c).trans hab) ((meet_le_right a c).trans hcd)

theorem le_join (hb : a ≤ b) (hc : a ≤ c) : a ≤ b.join c := by
  cases b with
  | unknown => exact hc
  | known low =>
    cases c with
    | unknown => exact hb
    | known high =>
      cases a with
      | unknown => exact absurd hb (not_unknown_le_known low)
      | known level => exact known_le_known.mpr (le_max_of_le_left hb)

theorem raise_le_raise (hab : a ≤ b) : a.raise ≤ b.raise := by
  cases b with
  | unknown => exact le_unknown _
  | known high =>
    cases a with
    | unknown => exact absurd hab (not_unknown_le_known high)
    | known low => exact known_le_known.mpr (max_le_max_left _ hab)

theorem le_raise (a : Verdict) : a ≤ a.raise := by
  cases a with
  | unknown => exact le_refl _
  | known level => exact known_le_known.mpr (le_max_right _ level)

theorem le_meetAll {verdicts : List Verdict} (h : ∀ b ∈ verdicts, a ≤ b) : a ≤ meetAll verdicts := by
  induction verdicts with
  | nil => exact le_unknown a
  | cons b rest ih =>
    obtain ⟨hb, hrest⟩ := List.forall_mem_cons.mp h
    exact le_meet hb (ih hrest)

theorem meetAll_le {verdicts : List Verdict} (h : a ∈ verdicts) : meetAll verdicts ≤ a := by
  induction verdicts with
  | nil => cases h
  | cons first rest ih =>
    change first.meet (meetAll rest) ≤ a
    rcases List.mem_cons.mp h with rfl | hrest
    · exact meet_le_left _ _
    · exact (meet_le_right _ _).trans (ih hrest)

theorem le_joinAll {verdicts : List Verdict} (h : ∀ b ∈ verdicts, a ≤ b) : a ≤ joinAll verdicts := by
  induction verdicts with
  | nil => exact le_unknown a
  | cons b rest ih =>
    obtain ⟨hb, hrest⟩ := List.forall_mem_cons.mp h
    exact le_join hb (ih hrest)

theorem eq_of_immutable_le {verdict : Verdict} (h : .known .immutable ≤ verdict) :
    verdict = .known .immutable ∨ verdict = .unknown := by
  cases verdict with
  | unknown => exact Or.inr rfl
  | known level => exact Or.inl (congrArg _ (le_antisymm (Level.le_immutable level) h))

theorem join_self (a : Verdict) : a.join a = a := by
  cases a with
  | unknown => rfl
  | known level => exact congrArg known (max_self level)

/-- If all verdicts but the unknown ones are the same, it is their greatest. -/
theorem joinAll_eq {verdicts : List Verdict} (h : ∀ b ∈ verdicts, b = unknown ∨ b = a) :
    joinAll verdicts = unknown ∨ joinAll verdicts = a := by
  induction verdicts with
  | nil => exact Or.inl rfl
  | cons b rest ih =>
    obtain ⟨hb, hrest⟩ := List.forall_mem_cons.mp h
    change b.join (joinAll rest) = unknown ∨ b.join (joinAll rest) = a
    rcases hb with rfl | rfl
    · exact ih hrest
    · right
      rcases ih hrest with hnone | hsame
      · rw [hnone, join_unknown]
      · rw [hsame, join_self]

theorem joinAll_le {verdicts : List Verdict} (h : ∀ b ∈ verdicts, b = unknown ∨ b = a)
    (hmem : a ∈ verdicts) : joinAll verdicts ≤ a := by
  induction verdicts with
  | nil => exact absurd hmem List.not_mem_nil
  | cons b rest ih =>
    obtain ⟨hb, hrest⟩ := List.forall_mem_cons.mp h
    change b.join (joinAll rest) ≤ a
    rcases List.mem_cons.mp hmem with rfl | hlater
    · rcases joinAll_eq hrest with hnone | hsame
      · rw [hnone, join_unknown]
      · rw [hsame, join_self]
    · rcases hb with rfl | rfl
      · exact ih hrest hlater
      · rcases joinAll_eq hrest with hnone | hsame
        · rw [hnone, join_unknown]
        · rw [hsame, join_self]

end Verdict

namespace Level

variable {lower upper high : Level} {a b c : Verdict}

theorem cap_le_cap (hupper : upper ≤ high) (hab : a ≤ b) : upper.cap a ≤ high.cap b := by
  cases b with
  | unknown => exact (cap_le upper a).trans hupper
  | known bound =>
    cases a with
    | unknown => exact absurd hab (Verdict.not_unknown_le_known bound)
    | known level => exact min_le_min hupper hab

theorem cap_le_cap_join (ha : upper.cap c ≤ upper.cap a) (hb : upper.cap c ≤ upper.cap b) :
    upper.cap c ≤ upper.cap (a.join b) := by
  cases a with
  | unknown => exact hb
  | known low =>
    cases b with
    | unknown => exact ha
    | known high => exact ha.trans (min_le_min_left upper (le_max_left low high))

end Level

/-- A reply is admissible for a child if it is no lower than the child's verdict. -/
abbrev RepliesFrom (value : TypeRef → Verdict) (child : TypeRef) (reply : Verdict) : Prop :=
  value child ≤ reply

namespace TypeGraph

/-- At most one of some types declares an index signature of each kind. -/
def SingleIndex (graph : TypeGraph) (sources : List TypeId) : Prop :=
  ∀ kind, ∀ one ∈ sources, ∀ two ∈ sources, (graph.indexSignature one kind).isSome →
    (graph.indexSignature two kind).isSome → one = two

variable {graph : TypeGraph}

theorem singleIndex_singleton (graph : TypeGraph) (id : TypeId) : graph.SingleIndex [id] := by
  intro kind one hone two htwo _ _
  rw [List.mem_singleton.mp hone, List.mem_singleton.mp htwo]

theorem indexVerdict_of_isNone {kind : IndexKind} {source : TypeId}
    (h : ¬ (graph.indexSignature source kind).isSome) (value : TypeRef → Verdict) :
    graph.indexVerdict value kind source = .unknown := by
  rw [Option.not_isSome_iff_eq_none] at h
  rw [indexVerdict, h]

/-- Where one type alone declares an index signature, its verdict is what the signatures come to. -/
theorem SingleIndex.indexBound_le {sources : List TypeId} (h : graph.SingleIndex sources)
    (value : TypeRef → Verdict) {kind : IndexKind} {source : TypeId} (hmem : source ∈ sources)
    (hsome : (graph.indexSignature source kind).isSome) :
    graph.indexBound value kind sources ≤ graph.indexVerdict value kind source := by
  apply Verdict.joinAll_le
  · intro verdict hverdict
    obtain ⟨other, hother, rfl⟩ := List.mem_map.mp hverdict
    by_cases hdeclares : (graph.indexSignature other kind).isSome
    · exact Or.inr (by rw [h kind other hother source hmem hdeclares hsome])
    · exact Or.inl (indexVerdict_of_isNone hdeclares value)
  · exact List.mem_map_of_mem hmem

end TypeGraph

/-! ### Walks over objects -/

namespace ObjectWalk

variable {graph : TypeGraph} {value : TypeRef → Verdict}

/-- The levels that a walk over an object can end with on replies from below. -/
abbrev YieldsFrom (graph : TypeGraph) (value : TypeRef → Verdict) :
    Step ObjectWalk Level → Level → Prop :=
  Step.Yields (resume graph.host ()) (RepliesFrom value)

theorem le_of_yields_unlessMet {walk : ObjectWalk} {next : ObjectWalk → Step ObjectWalk Level}
    {level : Level} (bound : Verdict)
    (h : YieldsFrom graph value (walk.unlessMet next) level)
    (hnext : YieldsFrom graph value (next walk) level →
      max walk.lower (walk.upper.cap bound) ≤ level) :
    max walk.lower (walk.upper.cap bound) ≤ level := by
  unfold unlessMet at h
  split at h
  · next hmet =>
    cases h
    exact (Level.max_cap_of_le hmet bound).le
  · exact hnext h

/-- The level after the index signatures of one kind, if `bound` is no higher than what any of them comes
to and `tail` is what the stages after them leave at least. -/
theorem le_of_yields_indexStage {kind : IndexKind} {next : ObjectWalk → Step ObjectWalk Level}
    {sources : List TypeId} (bound tail : Verdict)
    (hresume : ∀ walk rest found answer, walk.stage = .indexes kind rest found →
      walk.resume graph.host () answer =
        indexStage graph.host () kind next walk rest (indexed found answer))
    (hnext : ∀ walk level, walk.sources = sources → YieldsFrom graph value (next walk) level →
      max walk.lower (walk.upper.cap tail) ≤ level)
    {rest : List TypeId}
    (hrest : ∀ source ∈ rest, (graph.indexSignature source kind).isSome →
      bound ≤ graph.indexVerdict value kind source)
    {walk : ObjectWalk} {found : Verdict} {level : Level} (hsources : walk.sources = sources)
    (hfound : walk.upper.cap bound ≤ walk.upper.cap found)
    (h : YieldsFrom graph value (indexStage graph.host () kind next walk rest found) level) :
    max walk.lower (walk.upper.cap (bound.meet tail)) ≤ level := by
  induction rest generalizing walk found with
  | nil =>
    have hmet := le_of_yields_unlessMet tail h
      (hnext { walk with upper := walk.upper.cap found } level hsources)
    calc max walk.lower (walk.upper.cap (bound.meet tail))
        = max walk.lower ((walk.upper.cap bound).cap tail) := by rw [Level.cap_cap]
      _ ≤ max walk.lower ((walk.upper.cap found).cap tail) :=
          max_le_max_left _ (Level.cap_le_cap hfound (le_refl tail))
      _ ≤ level := hmet
  | cons source rest ih =>
    obtain ⟨hsource, hrest⟩ := List.forall_mem_cons.mp hrest
    rw [indexStage_cons] at h
    cases hsig : graph.indexSignature source kind with
    | none =>
      rw [hsig] at h
      exact ih hrest hsources hfound h
    | some signature =>
      have hbound := hsource (by rw [hsig]; rfl)
      rw [TypeGraph.indexVerdict, hsig] at hbound
      rw [hsig] at h
      dsimp only at h hbound
      split at h
      · next hreadonly =>
        rw [if_pos hreadonly] at hbound
        have hcap := Level.cap_le_cap (le_refl walk.upper) hbound
        exact ih hrest hsources (Level.cap_le_cap_join hfound hcap) h
      · next hreadonly =>
        rw [if_neg hreadonly] at hbound
        split at h
        · -- A value of the declaring type itself counts as the upper bound, which no cap exceeds.
          have hcap : walk.upper.cap bound ≤ walk.upper.cap (.known walk.upper) :=
            (Level.cap_le walk.upper bound).trans (le_min (le_refl _) (le_refl _))
          exact ih hrest hsources (Level.cap_le_cap_join hfound hcap) h
        · next hself =>
          rw [if_neg hself] at hbound
          cases h with
          | await hreply h =>
            rw [hresume _ _ _ _ rfl, indexed_some] at h
            have hraised := hbound.trans (Verdict.raise_le_raise hreply)
            have hcap := Level.cap_le_cap (le_refl walk.upper) hraised
            exact @ih hrest { walk with stage := .indexes kind rest found } _ hsources
              (Level.cap_le_cap_join hfound hcap) h

theorem le_of_yields_numbers {walk : ObjectWalk} {level : Level}
    (hsingle : graph.SingleIndex walk.sources)
    (h : YieldsFrom graph value (numberStage graph.host () walk walk.sources .unknown) level) :
    max walk.lower (walk.upper.cap (graph.indexBound value .number walk.sources)) ≤ level := by
  have hlevel := le_of_yields_indexStage (graph.indexBound value .number walk.sources) .unknown
    (fun _ _ _ answer hs => resume_numbers _ _ hs answer) ?_
    (fun source hmem hsome => hsingle.indexBound_le value hmem hsome) rfl
    (Level.cap_le _ _) h
  · rwa [Verdict.meet_unknown] at hlevel
  · intro walk level _ h
    cases h
    exact le_refl _

theorem le_of_yields_strings {walk : ObjectWalk} {level : Level}
    (hsingle : graph.SingleIndex walk.sources)
    (h : YieldsFrom graph value (stringStage graph.host () walk walk.sources .unknown) level) :
    max walk.lower (walk.upper.cap (indexTail graph value walk.sources)) ≤ level := by
  refine le_of_yields_indexStage (graph.indexBound value .string walk.sources)
    (graph.indexBound value .number walk.sources)
    (fun _ _ _ answer hs => resume_strings _ _ hs answer) ?_
    (fun source hmem hsome => hsingle.indexBound_le value hmem hsome) rfl
    (Level.cap_le _ _) h
  intro other level hsources h
  rw [← hsources]
  exact le_of_yields_numbers (hsources ▸ hsingle) h

theorem le_of_yields_argumentStage {walk : ObjectWalk} {rest : List TypeId} {found bound : Verdict}
    {level : Level} (hsingle : graph.SingleIndex walk.sources) (hfound : bound ≤ found)
    (h : YieldsFrom graph value (argumentStage graph.host () walk rest found) level) :
    max walk.lower (walk.upper.cap ((bound.meet (.meetAll ((bare rest).map value))).meet
      (indexTail graph value walk.sources))) ≤ level := by
  induction rest generalizing walk found bound with
  | nil =>
    rw [argumentStage_nil] at h
    have hmet := le_of_yields_unlessMet _ h (le_of_yields_strings hsingle)
    have hcap := Level.cap_le_cap (le_refl walk.upper) hfound
    rw [show Verdict.meetAll ((bare []).map value) = .unknown from rfl, Verdict.meet_unknown,
      ← Level.cap_cap]
    exact (max_le_max_left _ (Level.cap_le_cap hcap (le_refl _))).trans hmet
  | cons child rest ih =>
    cases h with
    | await hreply h =>
      rw [resume_arguments _ _ rfl] at h
      have hlevel := ih hsingle (Verdict.meet_le_meet hfound hreply) h
      rwa [Verdict.meet_assoc bound] at hlevel

theorem le_of_yields_afterProperties {walk : ObjectWalk} {level : Level}
    (hsingle : graph.SingleIndex walk.sources)
    (h : YieldsFrom graph value (afterProperties graph.host () walk) level) :
    max walk.lower (walk.upper.cap (argumentTail graph value walk.id walk.sources)) ≤ level := by
  have hhost : graph.host.isReference () walk.id = graph.isReference walk.id := rfl
  unfold afterProperties at h
  rw [hhost] at h
  unfold argumentTail TypeGraph.argumentBound
  split at h
  · next hreference =>
    rw [if_pos hreference]
    exact le_of_yields_argumentStage hsingle (le_refl Verdict.unknown) h
  · next hreference =>
    rw [if_neg hreference]
    exact le_of_yields_strings hsingle h

theorem le_of_yields_propertyStage {walk : ObjectWalk} {rest : List TypeId} {level : Level}
    (hsingle : graph.SingleIndex walk.sources)
    (h : YieldsFrom graph value (propertyStage graph.host () walk rest) level) :
    max walk.lower (walk.upper.cap ((Verdict.meetAll ((bare rest).map value)).meet
      (argumentTail graph value walk.id walk.sources))) ≤ level := by
  induction rest generalizing walk with
  | nil => exact le_of_yields_afterProperties hsingle h
  | cons child rest ih =>
    cases h with
    | @await _ _ reply _ hreply h =>
      rw [resume_properties_some _ _ rfl] at h
      have hmet := le_of_yields_unlessMet _ h (ih hsingle)
      have hcons : Verdict.meetAll ((bare (child :: rest)).map value) =
          (value { id := child }).meet (.meetAll ((bare rest).map value)) := rfl
      have hcap := Level.cap_le_cap (le_refl walk.upper) hreply
      rw [hcons, Verdict.meet_assoc, ← Level.cap_cap]
      exact (max_le_max_left _ (Level.cap_le_cap hcap (le_refl _))).trans hmet

theorem le_of_yields_surface {id : TypeId} {isTuple : Bool} {sources : List TypeId} {level : Level}
    (hsingle : graph.SingleIndex sources)
    (h : YieldsFrom graph value
      ((graph.surface id isTuple sources .immutable).resume graph.host () none) level) :
    graph.surfaceLevel value .immutable id isTuple sources ≤ level := by
  unfold TypeGraph.surfaceLevel
  rw [surfaceBound_eq]
  by_cases hempty : graph.properties id = []
  · rw [resume_scan_nil _ _ (congrArg ObjectStage.scan hempty)] at h
    rw [hempty, ← Level.cap_cap]
    exact le_of_yields_afterProperties hsingle h
  · rw [resume_surface hempty, Property.scanBound_eq] at h
    by_cases hwritable : (graph.properties id).any (Property.writable isTuple) = true
    · rw [if_pos hwritable]
      exact Level.mutable_le level
    · rw [if_neg hwritable] at h ⊢
      rw [if_neg (by simpa using hempty), ← Level.cap_cap]
      exact le_of_yields_propertyStage hsingle h

end ObjectWalk

theorem Least.le_of_yields {value : TypeRef → Verdict} {rest : List TypeRef}
    {found bound verdict : Verdict} (hfound : bound ≤ found)
    (h : Step.Yields resume (RepliesFrom value) (next { rest, found }) verdict) :
    bound.meet (.meetAll (rest.map value)) ≤ verdict := by
  induction rest generalizing found bound with
  | nil =>
    cases h
    exact (Verdict.meet_le_left _ _).trans hfound
  | cons child rest ih =>
    cases h with
    | @await _ _ reply _ hreply h =>
      have hcons : Verdict.meetAll ((child :: rest).map value) =
          (value child).meet (.meetAll (rest.map value)) := rfl
      have hmeet := Verdict.meet_le_meet hfound hreply
      rw [hcons, ← Verdict.meet_assoc]
      unfold resume at h
      dsimp only at h
      split at h
      · cases h
        exact (Verdict.meet_le_left _ _).trans hmeet
      · exact ih hmeet h

/-! ### Walks of any kind -/

namespace TypeGraph

variable {graph : TypeGraph} {value : TypeRef → Verdict} {id : TypeId} {verdict : Verdict}

abbrev YieldsFrom (graph : TypeGraph) (value : TypeRef → Verdict) :
    Step Task Verdict → Verdict → Prop :=
  Step.Yields (Task.resume graph.host ()) (RepliesFrom value)

theorem le_of_least {rest : List TypeRef}
    (h : graph.YieldsFrom value (Task.resume graph.host () (.least { rest }) none) verdict) :
    .meetAll (rest.map value) ≤ verdict := by
  obtain ⟨part, rfl, hpart⟩ := h.of_map fun _ _ => rfl
  exact Least.le_of_yields (le_refl Verdict.unknown) hpart

theorem le_of_object {isTuple : Bool} {sources : List TypeId} (hsingle : graph.SingleIndex sources)
    (h : graph.YieldsFrom value
      (Task.resume graph.host () (.object (graph.surface id isTuple sources .immutable)) none)
      verdict) :
    .known (graph.surfaceLevel value .immutable id isTuple sources) ≤ verdict := by
  obtain ⟨part, rfl, hpart⟩ := h.of_map fun _ _ => rfl
  exact Verdict.known_le_known.mpr (ObjectWalk.le_of_yields_surface hsingle hpart)

theorem le_of_array {isTuple : Bool} {sources : List TypeId} (hsingle : graph.SingleIndex sources)
    (h : graph.YieldsFrom value (Task.resume graph.host ()
      (.array (.container (graph.surface id isTuple sources .immutable) .immutable)) none) verdict) :
    .known (graph.surfaceLevel value .immutable id isTuple sources) ≤ verdict := by
  obtain ⟨part, rfl, hpart⟩ := h.of_map fun _ _ => rfl
  exact Verdict.known_le_known.mpr
    (ObjectWalk.le_of_yields_surface hsingle (ArrayWalk.yields_of_container hpart))

/-- A walk whose replies are no lower than the verdicts of the children ends no lower than the verdict by
structure. -/
theorem le_of_walk {task : Task}
    (hsingle : ∀ members, graph.shape id = .intersection members → graph.SingleIndex members)
    (ha : graph.approach id (graph.shape id) .immutable = .walk task)
    (h : graph.YieldsFrom value (task.resume graph.host () none) verdict) :
    graph.structural value id ≤ verdict := by
  unfold structural
  cases walks_of_approach ha with
  | union hs =>
    rw [hs]
    exact le_of_least h
  | conditional hs =>
    rw [hs]
    exact le_of_least h
  | intersection hs =>
    rw [hs]
    exact le_of_object (hsingle _ hs) h
  | plain hs hcallable =>
    rw [hs]
    dsimp only
    rw [if_neg hcallable]
    exact le_of_object (graph.singleIndex_singleton id) h
  | array hs hcallable =>
    rw [hs]
    dsimp only
    rw [if_neg hcallable]
    exact le_of_array (graph.singleIndex_singleton id) h
  | tuple hs hcallable =>
    rw [hs]
    dsimp only
    rw [if_neg hcallable]
    exact le_of_array (graph.singleIndex_singleton id) h

end TypeGraph

end Immutability
