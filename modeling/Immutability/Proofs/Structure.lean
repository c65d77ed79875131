import Immutability.Proofs.Approximation
import Immutability.Proofs.Children

/-!
# The verdict that the structure of a type calls for

`TypeGraph.structural` gives the verdict of a type from the verdicts of its children in one formula, with
no order among the children, no early end and no threshold. A walk asks for the children one after
another and stops when its bounds meet; `approximates_of_walk` says that what it ends with approximates
the formula, if the replies it got approximate the verdicts of the children.

The upper bound of a walk never exceeds its threshold. So the bound cannot tell a reply from the exact
verdict, and the formula for the rest of a walk can be read off its stage.
-/

set_option autoImplicit false

namespace Immutability

namespace Property

/-- A property that does not count: it cannot be assigned, is private or is the length of a tuple. -/
def exempt (isTuple : Bool) (property : Property) : Bool :=
  property.flags.readonly || property.flags.privateName || (isTuple && property.name == "length")

def writable (isTuple : Bool) (property : Property) : Bool :=
  !property.exempt isTuple && !property.flags.method

def methodBound (isTuple : Bool) (properties : List Property) : Level :=
  if properties.any fun property => !property.exempt isTuple && property.flags.method
  then .readonlyDeep else .immutable

theorem scanBound_eq (isTuple : Bool) (properties : List Property) (upper : Level) :
    ObjectWalk.scanBound isTuple properties upper =
      if properties.any (writable isTuple) then none
      else some (min upper (methodBound isTuple properties)) := by
  induction properties generalizing upper with
  | nil => simp [ObjectWalk.scanBound, methodBound, Level.le_immutable]
  | cons property rest ih =>
    rw [ObjectWalk.scanBound]
    change (if property.exempt isTuple = true then _ else _) = _
    rw [ih, ih]
    cases he : property.exempt isTuple with
    | true => simp [writable, methodBound, he]
    | false =>
      cases hm : property.flags.method with
      | false => simp [writable, he, hm]
      | true =>
        have hbound : methodBound isTuple (property :: rest) = .readonlyDeep := by
          simp [methodBound, he, hm]
        have hrest : Level.readonlyDeep ≤ methodBound isTuple rest := by
          unfold methodBound
          split <;> decide
        have hwritable : (property :: rest).any (writable isTuple) = rest.any (writable isTuple) := by
          simp [writable, hm]
        rw [hbound, hwritable, min_assoc, min_eq_left hrest]
        simp

end Property

namespace TypeGraph

variable (graph : TypeGraph) (value : TypeRef → Verdict)

def indexVerdict (kind : IndexKind) (source : TypeId) : Verdict :=
  match graph.indexSignature source kind with
  | none => .unknown
  | some signature =>
    if !signature.readonly then .known .mutable
    else if signature.value = source then .known .immutable
    else (value { id := signature.value }).raise

/-- What the index signatures of some types come to: the greatest of them counts. -/
def indexBound (kind : IndexKind) (sources : List TypeId) : Verdict :=
  .joinAll (sources.map (graph.indexVerdict value kind))

def argumentBound (id : TypeId) : Verdict :=
  if graph.isReference id then .meetAll ((bare (graph.typeArguments id)).map value) else .unknown

def surfaceBound (id : TypeId) (isTuple : Bool) (sources : List TypeId) : Verdict :=
  .meetAll [.known (Property.methodBound isTuple (graph.properties id)),
    .meetAll ((bare ((graph.properties id).map (·.type))).map value),
    graph.argumentBound value id,
    graph.indexBound value .string sources,
    graph.indexBound value .number sources]

/-- The level of an object, up to a threshold. An object with a property that can be assigned is mutable;
otherwise its properties make it read-only on the surface at least. -/
def surfaceLevel (threshold : Level) (id : TypeId) (isTuple : Bool) (sources : List TypeId) : Level :=
  if (graph.properties id).any (Property.writable isTuple) then .mutable
  else max (if (graph.properties id).isEmpty then .mutable else .readonlyShallow)
    (threshold.cap (graph.surfaceBound value id isTuple sources))

/-- The verdict of a type by its structure, from the verdicts of its children. -/
def structural (id : TypeId) : Verdict :=
  match graph.shape id with
  | .error => .unknown
  | .primitive => .known .immutable
  | .union members => .meetAll ((bare members).map value)
  | .conditional whenTrue whenFalse => .meetAll [value whenTrue, value whenFalse]
  | .intersection members => .known (graph.surfaceLevel value .immutable id false members)
  | .object kind =>
    if (graph.properties id).isEmpty && graph.callable id then .known .immutable
    else
      match kind with
      | .tuple false => .known .mutable
      | .tuple true => .known (graph.surfaceLevel value .immutable id true [id])
      | .array | .plain => .known (graph.surfaceLevel value .immutable id false [id])

end TypeGraph

/-! ### What walks yield -/

/-- What a part of a walk yields, the part yields. -/
theorem Step.Yields.of_map {ω ω' α α' : Type} {resume : ω → Option Verdict → Step ω α}
    {resume' : ω' → Option Verdict → Step ω' α'} {replies : TypeRef → Verdict → Prop}
    {f : ω → ω'} {g : α → α'} (hresume : ∀ walk answer,
      resume' (f walk) answer = (resume walk answer).map f g)
    {step : Step ω α} {result : α'} (h : Yields resume' replies (step.map f g) result) :
    ∃ part, result = g part ∧ Yields resume replies step part := by
  generalize hmapped : step.map f g = mapped at h
  induction h generalizing step with
  | done result =>
    cases step with
    | done part =>
      cases hmapped
      exact ⟨part, rfl, .done part⟩
    | await child walk => cases hmapped
  | await hreply _ ih =>
    cases step with
    | done part => cases hmapped
    | await child walk =>
      cases hmapped
      obtain ⟨part, rfl, hpart⟩ := ih (hresume walk _).symm
      exact ⟨part, rfl, .await hreply hpart⟩

/-- A reply is admissible for a child if it approximates the child's verdict. -/
abbrev RepliesUpTo (value : TypeRef → Verdict) (threshold : Level) (child : TypeRef)
    (reply : Verdict) : Prop :=
  Approximates threshold reply (value child)

namespace ObjectWalk

variable {graph : TypeGraph} {value : TypeRef → Verdict} {threshold : Level}

/-- The levels that a walk over an object can end with from a step on. -/
abbrev Yields (graph : TypeGraph) (value : TypeRef → Verdict) (threshold : Level) :
    Step ObjectWalk Level → Level → Prop :=
  Step.Yields (resume graph.host ()) (RepliesUpTo value threshold)

theorem indexed_some (found reply : Verdict) :
    indexed found (some reply) = found.join reply.raise := by
  cases reply with
  | unknown => exact (Verdict.join_unknown found).symm
  | known level => rfl

theorem indexStage_cons (kind : IndexKind) (next : ObjectWalk → Step ObjectWalk Level)
    (walk : ObjectWalk) (source : TypeId) (rest : List TypeId) (found : Verdict) :
    indexStage graph.host () kind next walk (source :: rest) found =
      match graph.indexSignature source kind with
      | none => indexStage graph.host () kind next walk rest found
      | some signature =>
        if !signature.readonly then
          indexStage graph.host () kind next walk rest (found.join (.known .mutable))
        else if signature.value = source then
          indexStage graph.host () kind next walk rest (found.join (.known walk.upper))
        else .await signature.value { walk with stage := .indexes kind rest found } := by
  have hhost : graph.host.indexSignature () source kind = graph.indexSignature source kind := rfl
  unfold indexStage
  rw [gather, hhost]
  cases graph.indexSignature source kind with
  | none => rfl
  | some signature =>
    dsimp only
    by_cases hr : (!signature.readonly) = true
    · simp only [if_pos hr]
    · by_cases hv : signature.value = source
      · simp only [if_neg hr, if_pos hv]
      · simp only [if_neg hr, if_neg hv]

theorem eq_of_yields_unlessMet {walk : ObjectWalk} {next : ObjectWalk → Step ObjectWalk Level}
    {level : Level} (bound : Verdict)
    (h : Yields graph value threshold (walk.unlessMet next) level)
    (hnext : Yields graph value threshold (next walk) level →
      level = max walk.lower (walk.upper.cap bound)) :
    level = max walk.lower (walk.upper.cap bound) := by
  unfold unlessMet at h
  split at h
  · next hmet =>
    cases h
    exact (Level.max_cap_of_le hmet bound).symm
  · exact hnext h

/-- The level after the index signatures of one kind, if `tail` is what the stages after them leave. -/
theorem eq_of_yields_indexStage {kind : IndexKind} {next : ObjectWalk → Step ObjectWalk Level}
    {sources : List TypeId} (tail : Verdict)
    (hresume : ∀ walk rest found answer, walk.stage = .indexes kind rest found →
      walk.resume graph.host () answer =
        indexStage graph.host () kind next walk rest (indexed found answer))
    (hnext : ∀ walk level, walk.sources = sources → walk.upper ≤ threshold →
      Yields graph value threshold (next walk) level →
      level = max walk.lower (walk.upper.cap tail))
    {rest : List TypeId} {walk : ObjectWalk} {found exact : Verdict} {level : Level}
    (hsources : walk.sources = sources) (hupper : walk.upper ≤ threshold)
    (hfound : Approximates threshold found exact)
    (h : Yields graph value threshold (indexStage graph.host () kind next walk rest found) level) :
    level = max walk.lower
      (walk.upper.cap ((exact.join (graph.indexBound value kind rest)).meet tail)) := by
  induction rest generalizing walk found exact with
  | nil =>
    have hmet := eq_of_yields_unlessMet tail h
      (hnext { walk with upper := walk.upper.cap found } level hsources
        ((Level.cap_le _ _).trans hupper))
    rw [hmet, hfound.cap_eq hupper, Level.cap_cap]
    exact congrArg (fun bound => max walk.lower (walk.upper.cap (bound.meet tail)))
      (Verdict.join_unknown exact).symm
  | cons source rest ih =>
    have hcons : graph.indexBound value kind (source :: rest) =
        (graph.indexVerdict value kind source).join (graph.indexBound value kind rest) := rfl
    rw [hcons, TypeGraph.indexVerdict]
    rw [indexStage_cons] at h
    split at h
    · exact ih hsources hupper hfound h
    · next signature _ =>
      split at h
      · next hreadonly =>
        rw [if_pos hreadonly, ← Verdict.join_assoc]
        exact ih hsources hupper (hfound.join (.exact _)) h
      · next hreadonly =>
        rw [if_neg hreadonly]
        split at h
        · next hself =>
          -- The walk counts its bound here and the formula the highest level: both leave the bound.
          rw [if_pos hself, ← Verdict.join_assoc, ← Level.cap_cap, Level.cap_join_immutable]
          have hbound := ih hsources hupper (hfound.join (.exact _)) h
          rwa [← Level.cap_cap, Level.cap_join_self] at hbound
        · next hself =>
          rw [if_neg hself, ← Verdict.join_assoc]
          cases h with
          | @await _ _ reply _ hreply h =>
            rw [hresume _ _ _ _ rfl, indexed_some] at h
            exact @ih { walk with stage := .indexes kind rest found } _ _ hsources hupper
              (hfound.join hreply.raise) h

theorem eq_of_yields_numberStage {rest : List TypeId} {walk : ObjectWalk} {found exact : Verdict}
    {level : Level} (hupper : walk.upper ≤ threshold) (hfound : Approximates threshold found exact)
    (h : Yields graph value threshold (numberStage graph.host () walk rest found) level) :
    level = max walk.lower (walk.upper.cap (exact.join (graph.indexBound value .number rest))) := by
  have hlevel := eq_of_yields_indexStage .unknown
    (fun _ _ _ answer hs => resume_numbers _ _ hs answer) ?_ rfl hupper hfound h
  · rwa [Verdict.meet_unknown] at hlevel
  · intro walk level _ _ h
    cases h
    rfl

def indexTail (graph : TypeGraph) (value : TypeRef → Verdict) (sources : List TypeId) : Verdict :=
  (graph.indexBound value .string sources).meet (graph.indexBound value .number sources)

theorem eq_of_yields_stringStage {walk : ObjectWalk} {rest : List TypeId} {found exact : Verdict}
    {level : Level} (hupper : walk.upper ≤ threshold) (hfound : Approximates threshold found exact)
    (h : Yields graph value threshold (stringStage graph.host () walk rest found) level) :
    level = max walk.lower (walk.upper.cap ((exact.join (graph.indexBound value .string rest)).meet
      (graph.indexBound value .number walk.sources))) := by
  refine eq_of_yields_indexStage _ (fun _ _ _ answer hs => resume_strings _ _ hs answer) ?_ rfl
    hupper hfound h
  intro other level hsources hupper h
  rw [← hsources]
  exact eq_of_yields_numberStage hupper (.exact .unknown) h

theorem eq_of_yields_strings {walk : ObjectWalk} {level : Level} (hupper : walk.upper ≤ threshold)
    (h : Yields graph value threshold (stringStage graph.host () walk walk.sources .unknown) level) :
    level = max walk.lower (walk.upper.cap (indexTail graph value walk.sources)) :=
  eq_of_yields_stringStage hupper (.exact .unknown) h

theorem eq_of_yields_argumentStage {walk : ObjectWalk} {rest : List TypeId} {found exact : Verdict}
    {level : Level} (hupper : walk.upper ≤ threshold) (hfound : Approximates threshold found exact)
    (h : Yields graph value threshold (argumentStage graph.host () walk rest found) level) :
    level = max walk.lower (walk.upper.cap ((exact.meet (.meetAll ((bare rest).map value))).meet
      (indexTail graph value walk.sources))) := by
  induction rest generalizing walk found exact with
  | nil =>
    rw [argumentStage_nil] at h
    have hmet := eq_of_yields_unlessMet _ h
      (eq_of_yields_strings ((Level.cap_le _ _).trans hupper))
    rw [hmet, hfound.cap_eq hupper, Level.cap_cap]
    exact congrArg (fun bound => max walk.lower
      (walk.upper.cap (bound.meet (indexTail graph value walk.sources))))
      (Verdict.meet_unknown exact).symm
  | cons child rest ih =>
    cases h with
    | await hreply h =>
      rw [resume_arguments _ _ rfl] at h
      have hlevel := ih hupper (hfound.meet hreply) h
      rwa [Verdict.meet_assoc exact] at hlevel

def argumentTail (graph : TypeGraph) (value : TypeRef → Verdict) (id : TypeId)
    (sources : List TypeId) : Verdict :=
  (graph.argumentBound value id).meet (indexTail graph value sources)

theorem eq_of_yields_afterProperties {walk : ObjectWalk} {level : Level}
    (hupper : walk.upper ≤ threshold)
    (h : Yields graph value threshold (afterProperties graph.host () walk) level) :
    level = max walk.lower (walk.upper.cap (argumentTail graph value walk.id walk.sources)) := by
  have hhost : graph.host.isReference () walk.id = graph.isReference walk.id := rfl
  unfold afterProperties at h
  rw [hhost] at h
  unfold argumentTail TypeGraph.argumentBound
  split at h
  · next hreference =>
    rw [if_pos hreference]
    exact eq_of_yields_argumentStage hupper (.exact .unknown) h
  · next hreference =>
    rw [if_neg hreference]
    exact eq_of_yields_strings hupper h

theorem eq_of_yields_propertyStage {walk : ObjectWalk} {rest : List TypeId} {level : Level}
    (hupper : walk.upper ≤ threshold)
    (h : Yields graph value threshold (propertyStage graph.host () walk rest) level) :
    level = max walk.lower (walk.upper.cap ((Verdict.meetAll ((bare rest).map value)).meet
      (argumentTail graph value walk.id walk.sources))) := by
  induction rest generalizing walk with
  | nil => exact eq_of_yields_afterProperties hupper h
  | cons child rest ih =>
    cases h with
    | await hreply h =>
      rw [resume_properties_some _ _ rfl] at h
      have hmet := eq_of_yields_unlessMet _ h (ih ((Level.cap_le _ _).trans hupper))
      rw [hreply.cap_eq hupper, Level.cap_cap, ← Verdict.meet_assoc] at hmet
      exact hmet

theorem surfaceBound_eq (graph : TypeGraph) (value : TypeRef → Verdict) (id : TypeId)
    (isTuple : Bool) (sources : List TypeId) :
    graph.surfaceBound value id isTuple sources =
      (Verdict.known (Property.methodBound isTuple (graph.properties id))).meet
        ((Verdict.meetAll ((bare ((graph.properties id).map (·.type))).map value)).meet
          (argumentTail graph value id sources)) := by
  simp only [TypeGraph.surfaceBound, argumentTail, indexTail, Verdict.meetAll, List.foldr_cons,
    List.foldr_nil, Verdict.meet_unknown]

theorem resume_surface {id : TypeId} (hne : graph.properties id ≠ []) (isTuple : Bool)
    (sources : List TypeId) (threshold : Level) (answer : Option Verdict) :
    (graph.surface id isTuple sources threshold).resume graph.host () answer =
      match scanBound isTuple (graph.properties id) threshold with
      | none => .done .mutable
      | some upper =>
        propertyStage graph.host ()
          { graph.surface id isTuple sources threshold with lower := .readonlyShallow, upper }
          ((graph.properties id).map (·.type)) :=
  resume_scan _ _ rfl hne answer

/-- The walk over the surface of a type ends with the level of the formula, up to its threshold. -/
theorem eq_of_yields_surface {id : TypeId} {isTuple : Bool} {sources : List TypeId} {level : Level}
    (h : Yields graph value threshold
      ((graph.surface id isTuple sources threshold).resume graph.host () none) level) :
    level = graph.surfaceLevel value threshold id isTuple sources := by
  unfold TypeGraph.surfaceLevel
  rw [surfaceBound_eq]
  by_cases hempty : graph.properties id = []
  · rw [resume_scan_nil _ _ (congrArg ObjectStage.scan hempty)] at h
    have hlevel := eq_of_yields_afterProperties (Level.le_refl threshold) h
    have hcap : threshold.cap (.known (Property.methodBound isTuple [])) = threshold :=
      min_eq_left (Level.le_immutable threshold)
    rw [hempty, ← Level.cap_cap, hcap]
    exact hlevel
  · rw [resume_surface hempty, Property.scanBound_eq] at h
    by_cases hwritable : (graph.properties id).any (Property.writable isTuple) = true
    · rw [if_pos hwritable] at h ⊢
      cases h
      rfl
    · rw [if_neg hwritable] at h ⊢
      have hupper := min_le_left threshold (Property.methodBound isTuple (graph.properties id))
      rw [if_neg (by simpa using hempty), ← Level.cap_cap]
      exact eq_of_yields_propertyStage hupper h

end ObjectWalk

namespace ArrayWalk

variable {graph : TypeGraph} {replies : TypeRef → Verdict → Prop} {threshold : Level}

abbrev Yields (graph : TypeGraph) (replies : TypeRef → Verdict → Prop) :
    Step ArrayWalk Level → Level → Prop :=
  Step.Yields (resume graph.host ()) replies

/-- The element types of an array that is not mutable leave its level alone. -/
theorem eq_of_yields_elementStage {shallow level : Level} (hshallow : shallow ≠ .mutable)
    {rest : List TypeId} {found : Verdict}
    (h : Yields graph replies (elementStage shallow rest found) level) : level = shallow := by
  induction rest generalizing found with
  | nil =>
    cases h
    -- Elements count as read-only on the surface at best, which the array already is.
    have hle : Level.readonlyShallow ≤ shallow := by
      cases shallow with
      | mutable => exact absurd rfl hshallow
      | _ => decide
    exact max_eq_left ((Level.cap_le _ _).trans hle)
  | cons child rest ih =>
    cases h with
    | await _ h => exact ih h

theorem resume_container_await {object rest : ObjectWalk} {answer : Option Verdict} {child : TypeRef}
    (h : object.resume graph.host () answer = .await child rest) (threshold : Level) :
    (container object threshold).resume graph.host () answer =
      .await child (container rest threshold) := by
  rw [resume, h]

theorem eq_of_yields_container_done {object : ObjectWalk} {answer : Option Verdict}
    {shallow level : Level} (hdone : object.resume graph.host () answer = .done shallow)
    (h : Yields graph replies
      ((container object threshold).resume graph.host () answer) level) : level = shallow := by
  rw [resume, hdone] at h
  dsimp only at h
  split at h
  · cases h
    rfl
  · next hends =>
    have hshallow : shallow ≠ .mutable := by
      rintro rfl
      exact hends rfl
    exact eq_of_yields_elementStage hshallow h

/-- A walk over an array ends with the level of the array as an object. -/
theorem yields_of_container {object : ObjectWalk} {answer : Option Verdict} {level : Level}
    (h : Yields graph replies
      ((container object threshold).resume graph.host () answer) level) :
    Step.Yields (ObjectWalk.resume graph.host ()) replies
      (object.resume graph.host () answer) level := by
  generalize hstep : (container object threshold).resume graph.host () answer = step at h
  induction h generalizing object answer with
  | done level =>
    cases hr : object.resume graph.host () answer with
    | done shallow =>
      have hyields : Yields graph replies
          ((container object threshold).resume graph.host () answer) level := by
        rw [hstep]
        exact .done level
      rw [eq_of_yields_container_done hr hyields]
      exact .done shallow
    | await child rest =>
      rw [resume_container_await hr] at hstep
      cases hstep
  | @await _ _ _ level hreply h ih =>
    cases hr : object.resume graph.host () answer with
    | done shallow =>
      have hyields : Yields graph replies
          ((container object threshold).resume graph.host () answer) level := by
        rw [hstep]
        exact .await hreply h
      rw [eq_of_yields_container_done hr hyields]
      exact .done shallow
    | await child rest =>
      rw [resume_container_await hr] at hstep
      cases hstep
      exact .await hreply (ih rfl)

end ArrayWalk

namespace Least

variable {value : TypeRef → Verdict} {threshold : Level}

abbrev Yields (value : TypeRef → Verdict) (threshold : Level) :
    Step Least Verdict → Verdict → Prop :=
  Step.Yields resume (RepliesUpTo value threshold)

theorem approximates_of_yields {rest : List TypeRef} {found exact verdict : Verdict}
    (hfound : Approximates threshold found exact)
    (h : Yields value threshold (next { rest, found }) verdict) :
    Approximates threshold verdict (exact.meet (.meetAll (rest.map value))) := by
  induction rest generalizing found exact with
  | nil =>
    cases h
    rw [show Verdict.meetAll (List.map value []) = .unknown from rfl, Verdict.meet_unknown]
    exact hfound
  | cons child rest ih =>
    cases h with
    | @await _ _ reply _ hreply h =>
      have hcons : Verdict.meetAll ((child :: rest).map value) =
          (value child).meet (.meetAll (rest.map value)) := rfl
      have hmeet := hfound.meet hreply
      rw [hcons, ← Verdict.meet_assoc]
      unfold resume at h
      dsimp only at h
      split at h
      · next hmutable =>
        -- The search ends early, with types left that it never asked for.
        cases h
        rw [hmutable] at hmeet ⊢
        exact hmeet.meet_of_mutable _
      · exact ih hmeet h

end Least

namespace TypeGraph

variable {graph : TypeGraph} {value : TypeRef → Verdict} {id : TypeId} {threshold : Level}
  {verdict : Verdict}

theorem approximates_surface (graph : TypeGraph) (value : TypeRef → Verdict) (threshold : Level)
    (id : TypeId) (isTuple : Bool) (sources : List TypeId) :
    Approximates threshold (.known (graph.surfaceLevel value threshold id isTuple sources))
      (.known (graph.surfaceLevel value .immutable id isTuple sources)) := by
  unfold surfaceLevel
  split
  · exact .exact _
  · exact .clamp threshold _ _

abbrev Yields (graph : TypeGraph) (value : TypeRef → Verdict) (threshold : Level) :
    Step Task Verdict → Verdict → Prop :=
  Step.Yields (Task.resume graph.host ()) (RepliesUpTo value threshold)

theorem approximates_of_least {rest : List TypeRef}
    (h : graph.Yields value threshold (Task.resume graph.host () (.least { rest }) none) verdict) :
    Approximates threshold verdict (.meetAll (rest.map value)) := by
  obtain ⟨part, rfl, hpart⟩ := h.of_map fun _ _ => rfl
  exact Least.approximates_of_yields (.exact .unknown) hpart

theorem approximates_of_object {isTuple : Bool} {sources : List TypeId}
    (h : graph.Yields value threshold
      (Task.resume graph.host () (.object (graph.surface id isTuple sources threshold)) none) verdict) :
    Approximates threshold verdict
      (.known (graph.surfaceLevel value .immutable id isTuple sources)) := by
  obtain ⟨part, rfl, hpart⟩ := h.of_map fun _ _ => rfl
  rw [ObjectWalk.eq_of_yields_surface hpart]
  exact graph.approximates_surface value threshold id isTuple sources

theorem approximates_of_array {isTuple : Bool} {sources : List TypeId}
    (h : graph.Yields value threshold (Task.resume graph.host ()
      (.array (.container (graph.surface id isTuple sources threshold) threshold)) none) verdict) :
    Approximates threshold verdict
      (.known (graph.surfaceLevel value .immutable id isTuple sources)) := by
  obtain ⟨part, rfl, hpart⟩ := h.of_map fun _ _ => rfl
  rw [ObjectWalk.eq_of_yields_surface (ArrayWalk.yields_of_container hpart)]
  exact graph.approximates_surface value threshold id isTuple sources

/-- A walk whose replies approximate the verdicts of the children ends with an approximation of the
verdict by structure. -/
theorem approximates_of_walk {task : Task}
    (ha : graph.approach id (graph.shape id) threshold = .walk task)
    (h : graph.Yields value threshold (task.resume graph.host () none) verdict) :
    Approximates threshold verdict (graph.structural value id) := by
  unfold structural
  cases walks_of_approach ha with
  | union hs =>
    rw [hs]
    exact approximates_of_least h
  | conditional hs =>
    rw [hs]
    exact approximates_of_least h
  | intersection hs =>
    rw [hs]
    exact approximates_of_object h
  | plain hs hcallable =>
    rw [hs]
    dsimp only
    rw [if_neg hcallable]
    exact approximates_of_object h
  | array hs hcallable =>
    rw [hs]
    dsimp only
    rw [if_neg hcallable]
    exact approximates_of_array h
  | tuple hs hcallable =>
    rw [hs]
    dsimp only
    rw [if_neg hcallable]
    exact approximates_of_array h

theorem eq_structural_of_leaf (value : TypeRef → Verdict)
    (ha : graph.approach id (graph.shape id) threshold = .leaf verdict) :
    verdict = graph.structural value id := by
  unfold structural
  cases hs : graph.shape id with
  | error =>
    rw [hs] at ha
    cases ha
    rfl
  | primitive =>
    rw [hs] at ha
    cases ha
    rfl
  | object kind =>
    rw [hs, approach_object] at ha
    dsimp only
    split at ha
    · next hcallable =>
      rw [if_pos hcallable]
      cases ha
      rfl
    · next hcallable =>
      rw [if_neg hcallable]
      split at ha
      · cases ha
        rfl
      · cases ha
      · cases ha
      · cases ha
  | _ =>
    rw [hs] at ha
    cases ha

/-! ### The formula reads the children only -/

variable {other : TypeRef → Verdict}

theorem indexBound_congr {kind : IndexKind} {sources : List TypeId}
    (h : ∀ child ∈ bare (graph.indexValues kind sources), value child = other child) :
    graph.indexBound value kind sources = graph.indexBound other kind sources := by
  unfold indexBound
  apply congrArg
  apply List.map_congr_left
  intro source hsource
  unfold indexVerdict
  cases hsig : graph.indexSignature source kind with
  | none => rfl
  | some signature =>
    dsimp only
    split
    · rfl
    · split
      · rfl
      · next hreadonly hself =>
        have hvalue : graph.indexValue? kind source = some signature.value := by
          rw [indexValue?, hsig, Option.bind_some, if_neg hreadonly, if_neg hself]
        have hmem : signature.value ∈ graph.indexValues kind sources :=
          List.mem_filterMap.mpr ⟨source, hsource, hvalue⟩
        rw [h { id := signature.value } (mem_bare.mpr ⟨rfl, hmem⟩)]

theorem surfaceLevel_congr {sources : List TypeId}
    (h : ∀ child ∈ bare (graph.surfaceChildren id sources), value child = other child)
    (isTuple : Bool) :
    graph.surfaceLevel value threshold id isTuple sources =
      graph.surfaceLevel other threshold id isTuple sources := by
  simp only [surfaceChildren, bare_append, List.mem_append] at h
  have hproperties : (bare ((graph.properties id).map (·.type))).map value =
      (bare ((graph.properties id).map (·.type))).map other :=
    List.map_congr_left fun child hc => h child (Or.inl hc)
  have harguments : graph.argumentBound value id = graph.argumentBound other id := by
    unfold argumentBound
    rw [List.map_congr_left fun child hc => h child (Or.inr (Or.inl hc))]
  have hstrings : graph.indexBound value .string sources = graph.indexBound other .string sources :=
    indexBound_congr fun child hc => h child (Or.inr (Or.inr (Or.inl hc)))
  have hnumbers : graph.indexBound value .number sources = graph.indexBound other .number sources :=
    indexBound_congr fun child hc => h child (Or.inr (Or.inr (Or.inr hc)))
  unfold surfaceLevel surfaceBound
  rw [hproperties, harguments, hstrings, hnumbers]

theorem structural_congr (h : ∀ child ∈ graph.children id, value child = other child) :
    graph.structural value id = graph.structural other id := by
  unfold children at h
  unfold structural
  cases hs : graph.shape id with
  | error => rfl
  | primitive => rfl
  | union members =>
    rw [hs] at h
    exact congrArg Verdict.meetAll (List.map_congr_left h)
  | conditional whenTrue whenFalse =>
    rw [hs] at h
    exact congrArg Verdict.meetAll (List.map_congr_left h)
  | intersection members =>
    rw [hs] at h
    exact congrArg Verdict.known (surfaceLevel_congr h false)
  | object kind =>
    rw [hs] at h
    dsimp only
    rw [surfaceLevel_congr h true, surfaceLevel_congr h false]

end TypeGraph

end Immutability
