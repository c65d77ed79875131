import Immutability.Proofs.StoreWalks
import Immutability.Proofs.Structure

/-!
# Walks driven by hand

A walk over an object carries two bounds through four stages, keeps the reply to its last question for the
next round and has several ways to end early. `yields_surface_iff` says what all of it comes to: whatever
the replies, the walk ends, and with one level, which `sequentialLevel` computes stage by stage. An index
signature whose values are of the declaring type counts as the bound that is left when its stage begins.

A walk over an array asks for the element types after everything else. `feed_array` says that those
questions are asked for nothing: on every sequence of answers the walk ends with the level at which the
walk over its surface has ended before, on the same answers.
-/

set_option autoImplicit false

namespace Immutability

/-! ### The level of a surface, stage by stage -/

namespace TypeGraph

variable (graph : TypeGraph) (value : TypeRef → Verdict)

def declaredVerdict (kind : IndexKind) (upper : Level) (source : TypeId) : Verdict :=
  match graph.indexSignature source kind with
  | none => .unknown
  | some signature =>
    if !signature.readonly then .known .mutable
    else if signature.value = source then .known upper
    else (value { id := signature.value }).raise

/-- The bound after the index signatures of one kind: the greatest of what they come to lowers it. -/
def afterIndexes (kind : IndexKind) (sources : List TypeId) (upper : Level) : Level :=
  upper.cap (.joinAll (sources.map (graph.declaredVerdict value kind upper)))

/-- The bound after the type arguments, which count for references only. -/
def afterArguments (id : TypeId) (upper : Level) : Level :=
  if graph.isReference id then upper.cap (.meetAll ((bare (graph.typeArguments id)).map value)) else upper

def afterTypes (id : TypeId) (upper : Level) : Level :=
  upper.cap (.meetAll ((bare ((graph.properties id).map (·.type))).map value))

/-- The bound after a first look at the properties: methods that count leave a deeply read-only object. -/
def afterScan (id : TypeId) (isTuple : Bool) (upper : Level) : Level :=
  if (graph.properties id).any fun property => !property.exempt isTuple && property.flags.method
  then min upper .readonlyDeep else upper

/-- The level of an object under a threshold, from the verdicts of its children. -/
def sequentialLevel (threshold : Level) (id : TypeId) (isTuple : Bool) (sources : List TypeId) : Level :=
  if (graph.properties id).any (Property.writable isTuple) then .mutable
  else
    let lower : Level := if (graph.properties id).isEmpty then .mutable else .readonlyShallow
    let upper := graph.afterArguments value id
      (graph.afterTypes value id (graph.afterScan id isTuple threshold))
    max lower (graph.afterIndexes value .number sources (graph.afterIndexes value .string sources upper))

variable {graph value}

/-- A signature that counts as the bound leaves the bound as one that counts as the highest level. -/
theorem cap_joinAll_declared (kind : IndexKind) (upper : Level) (sources : List TypeId)
    (found : Verdict) :
    upper.cap (found.join (.joinAll (sources.map (graph.declaredVerdict value kind upper)))) =
      upper.cap (found.join (graph.indexBound value kind sources)) := by
  induction sources generalizing found with
  | nil => rfl
  | cons source sources ih =>
    have hdeclared : Verdict.joinAll ((source :: sources).map (graph.declaredVerdict value kind upper)) =
        (graph.declaredVerdict value kind upper source).join
          (.joinAll (sources.map (graph.declaredVerdict value kind upper))) := rfl
    have hbound : graph.indexBound value kind (source :: sources) =
        (graph.indexVerdict value kind source).join (graph.indexBound value kind sources) := rfl
    rw [hdeclared, hbound, ← Verdict.join_assoc, ← Verdict.join_assoc]
    unfold declaredVerdict indexVerdict
    cases graph.indexSignature source kind with
    | none => exact ih _
    | some signature =>
      dsimp only
      split
      · exact ih _
      · split
        · rw [Level.cap_join_self, Level.cap_join_immutable]
        · exact ih _

theorem afterIndexes_eq (kind : IndexKind) (sources : List TypeId) (upper : Level) :
    graph.afterIndexes value kind sources upper = upper.cap (graph.indexBound value kind sources) :=
  cap_joinAll_declared kind upper sources .unknown

theorem afterArguments_eq (id : TypeId) (upper : Level) :
    graph.afterArguments value id upper = upper.cap (graph.argumentBound value id) := by
  unfold afterArguments argumentBound
  split <;> rfl

theorem afterScan_eq (id : TypeId) (isTuple : Bool) (upper : Level) :
    graph.afterScan id isTuple upper =
      upper.cap (.known (Property.methodBound isTuple (graph.properties id))) := by
  unfold afterScan Property.methodBound
  split
  · rfl
  · exact (min_eq_left (Level.le_immutable upper)).symm

/-- The order of the stages does not matter: the bounds can be taken together. -/
theorem sequentialLevel_eq (threshold : Level) (id : TypeId) (isTuple : Bool)
    (sources : List TypeId) :
    graph.sequentialLevel value threshold id isTuple sources =
      graph.surfaceLevel value threshold id isTuple sources := by
  unfold sequentialLevel surfaceLevel
  dsimp only
  rw [afterIndexes_eq, afterIndexes_eq, afterArguments_eq, afterTypes, afterScan_eq,
    ObjectWalk.surfaceBound_eq]
  unfold ObjectWalk.argumentTail ObjectWalk.indexTail
  simp only [← Level.cap_cap]

end TypeGraph

namespace ObjectWalk

/-- A walk over a surface ends on all replies, and with the level that its stages compute. -/
theorem yields_surface_iff (graph : TypeGraph) (value : TypeRef → Verdict) (threshold : Level)
    (id : TypeId) (isTuple : Bool) (sources : List TypeId) (level : Level) :
    Step.Yields (resume graph.host ()) (fun child reply => reply = value child)
        ((graph.surface id isTuple sources threshold).resume graph.host () none) level ↔
      level = graph.sequentialLevel value threshold id isTuple sources := by
  have hunique : ∀ {other}, Step.Yields (resume graph.host ()) (fun child reply => reply = value child)
      ((graph.surface id isTuple sources threshold).resume graph.host () none) other →
      other = graph.sequentialLevel value threshold id isTuple sources := by
    intro other h
    rw [TypeGraph.sequentialLevel_eq]
    apply eq_of_yields_surface
    refine h.mono ?_
    rintro child reply rfl
    exact .exact _
  constructor
  · exact hunique
  · rintro rfl
    obtain ⟨verdict, h⟩ := @Task.exists_yields graph (fun child reply => reply = value child)
      (fun child => ⟨value child, rfl⟩) (.object (graph.surface id isTuple sources threshold)) none
    obtain ⟨other, _, hother⟩ := h.of_map fun _ _ => rfl
    exact hunique hother ▸ hother

end ObjectWalk

/-! ### Sequences of answers -/

namespace Step

variable {σ ω α : Type} {resume : σ → ω → Option Verdict → Step ω α}

variable (resume) in
/-- Goes on with the answers of a list, one for each question, each with the state that the host is in by
then. Answers that are left over when the walk has ended are of no account. -/
def feed : Step ω α → List (σ × Verdict) → Step ω α
  | step, [] => step
  | done value, _ :: _ => done value
  | await _ walk, (state, reply) :: answers => feed (resume state walk (some reply)) answers

variable (resume) in
inductive Ends : Step ω α → Prop where
  | done (value : α) : Ends (.done value)
  | await {child : TypeRef} {walk : ω} :
      (∀ state reply, Ends (resume state walk (some reply))) → Ends (.await child walk)

variable (resume) in
theorem feed_done (value : α) (answers : List (σ × Verdict)) :
    feed resume (.done value) answers = .done value := by
  cases answers <;> rfl

/-- On every endless sequence of answers the walk has ended after finitely many of them. -/
theorem Ends.exists_feed {step : Step ω α} (h : Ends resume step) (answers : Nat → σ × Verdict) :
    ∃ count value, feed resume step ((List.range count).map answers) = .done value := by
  induction h generalizing answers with
  | done value => exact ⟨0, value, rfl⟩
  | await _ ih =>
    obtain ⟨count, value, hvalue⟩ := ih (answers 0).1 (answers 0).2 fun index => answers (index + 1)
    refine ⟨count + 1, value, ?_⟩
    rw [List.range_succ_eq_map, List.map_cons, List.map_map]
    exact hvalue

end Step

namespace ObjectWalk

open Step (Ends)

variable {σ : Type} {host : Host σ}

theorem ends_unlessMet {walk : ObjectWalk} {next : ObjectWalk → Step ObjectWalk Level}
    (h : Ends (resume host) (next walk)) : Ends (resume host) (walk.unlessMet next) := by
  unfold unlessMet
  split
  · exact .done _
  · exact h

theorem length_lt_of_gather {state : σ} {kind : IndexKind} {upper : Level} {sources rest : List TypeId}
    {found later : Verdict} {value : TypeId}
    (h : gather host state kind upper sources found = .waits value rest later) :
    rest.length < sources.length := by
  induction sources generalizing found with
  | nil => cases h
  | cons source sources ih =>
    rw [gather] at h
    rw [List.length_cons]
    split at h
    · exact (ih h).trans (Nat.lt_succ_self _)
    · split at h
      · exact (ih h).trans (Nat.lt_succ_self _)
      · split at h
        · exact (ih h).trans (Nat.lt_succ_self _)
        · cases h
          exact Nat.lt_succ_self _

/-- The index signatures of one kind come to an end if what follows them does. -/
theorem ends_indexStage {kind : IndexKind} {next : σ → ObjectWalk → Step ObjectWalk Level}
    (hresume : ∀ state walk rest found answer, walk.stage = .indexes kind rest found →
      walk.resume host state answer =
        indexStage host state kind (next state) walk rest (indexed found answer))
    (hnext : ∀ state walk, Ends (resume host) (next state walk)) (state : σ) (walk : ObjectWalk)
    (rest : List TypeId) (found : Verdict) :
    Ends (resume host) (indexStage host state kind (next state) walk rest found) := by
  induction hn : rest.length using Nat.strongRecOn generalizing state walk rest found with
  | ind length ih =>
    unfold indexStage
    cases hg : gather host state kind walk.upper rest found with
    | all found => exact ends_unlessMet (hnext state _)
    | waits value later found =>
      refine .await fun state reply => ?_
      rw [hresume state _ later found _ rfl]
      exact ih later.length (hn ▸ length_lt_of_gather hg) state _ later _ rfl

theorem ends_numberStage (state : σ) (walk : ObjectWalk) (rest : List TypeId) (found : Verdict) :
    Ends (resume host) (numberStage host state walk rest found) :=
  ends_indexStage (fun _ _ _ _ answer hs => resume_numbers _ _ hs answer) (fun _ _ => .done _)
    state walk rest found

theorem ends_stringStage (state : σ) (walk : ObjectWalk) (rest : List TypeId) (found : Verdict) :
    Ends (resume host) (stringStage host state walk rest found) :=
  ends_indexStage (fun _ _ _ _ answer hs => resume_strings _ _ hs answer)
    (fun state walk => ends_numberStage state walk walk.sources .unknown) state walk rest found

theorem ends_argumentStage (state : σ) (walk : ObjectWalk) (rest : List TypeId) (found : Verdict) :
    Ends (resume host) (argumentStage host state walk rest found) := by
  induction rest generalizing state walk found with
  | nil =>
    rw [argumentStage_nil]
    apply ends_unlessMet
    apply ends_stringStage
  | cons child rest ih =>
    refine .await fun state reply => ?_
    rw [resume_arguments _ _ rfl]
    exact ih state _ _

theorem ends_afterProperties (state : σ) (walk : ObjectWalk) :
    Ends (resume host) (afterProperties host state walk) := by
  unfold afterProperties
  split
  · exact ends_argumentStage state walk _ _
  · exact ends_stringStage state walk _ _

theorem ends_propertyStage (state : σ) (walk : ObjectWalk) (rest : List TypeId) :
    Ends (resume host) (propertyStage host state walk rest) := by
  induction rest generalizing state walk with
  | nil => exact ends_afterProperties state walk
  | cons child rest ih =>
    refine .await fun state reply => ?_
    rw [resume_properties_some _ _ rfl]
    apply ends_unlessMet
    exact ih state _

theorem ends_resume (host : Host σ) (state : σ) (walk : ObjectWalk) (answer : Option Verdict) :
    Ends (resume host) (walk.resume host state answer) := by
  cases hs : walk.stage with
  | scan properties =>
    by_cases hne : properties = []
    · subst hne
      rw [resume_scan_nil _ _ hs]
      exact ends_afterProperties state walk
    · rw [resume_scan _ _ hs hne]
      cases scanBound walk.isTuple properties walk.upper with
      | none => exact .done _
      | some upper => exact ends_propertyStage state _ _
  | properties rest =>
    cases answer with
    | none =>
      rw [resume_properties_none _ _ hs]
      exact ends_propertyStage state walk rest
    | some verdict =>
      rw [resume_properties_some _ _ hs]
      apply ends_unlessMet
      exact ends_propertyStage state _ rest
  | arguments rest found =>
    rw [resume_arguments _ _ hs]
    exact ends_argumentStage state walk rest _
  | indexes kind rest found =>
    cases kind with
    | string =>
      rw [resume_strings _ _ hs]
      exact ends_stringStage state walk rest _
    | number =>
      rw [resume_numbers _ _ hs]
      exact ends_numberStage state walk rest _

end ObjectWalk

/-! ### Elements -/

/-- The host that gives other type arguments to what is no reference. -/
def Host.rearrange {σ : Type} (host : Host σ) (arguments : σ → TypeId → List TypeId) : Host σ :=
  { host with typeArguments := fun state id =>
      if host.isReference state id then host.typeArguments state id else arguments state id }

namespace ObjectWalk

variable {σ : Type} (host : Host σ) (arguments : σ → TypeId → List TypeId)

theorem gather_rearrange (state : σ) (kind : IndexKind) (upper : Level) (sources : List TypeId)
    (found : Verdict) :
    gather (host.rearrange arguments) state kind upper sources found =
      gather host state kind upper sources found := by
  induction sources generalizing found with
  | nil => rfl
  | cons source sources ih =>
    have hsame : (host.rearrange arguments).indexSignature state source kind =
        host.indexSignature state source kind := rfl
    simp only [gather, hsame, ih]

theorem stringStage_rearrange : stringStage (host.rearrange arguments) = stringStage host := by
  funext state walk rest found
  simp only [stringStage, numberStage, indexStage, gather_rearrange]

theorem afterProperties_rearrange :
    afterProperties (host.rearrange arguments) = afterProperties host := by
  funext state walk
  have hreference : (host.rearrange arguments).isReference state walk.id =
      host.isReference state walk.id := rfl
  have harguments : host.isReference state walk.id = true →
      (host.rearrange arguments).typeArguments state walk.id =
        host.typeArguments state walk.id := fun h => if_pos h
  unfold afterProperties
  rw [hreference, stringStage_rearrange]
  split
  · next h => simp only [harguments h, argumentStage, stringStage_rearrange]
  · rfl

/-- A walk over an object does not look at the type arguments of what is no reference. -/
theorem resume_rearrange : resume (host.rearrange arguments) = resume host := by
  funext state walk answer
  simp only [resume, propertyStage, argumentStage, numberStage, indexStage, gather_rearrange,
    stringStage_rearrange, afterProperties_rearrange]

end ObjectWalk

namespace ArrayWalk

variable {σ : Type} {host : Host σ} {shallow level threshold : Level} {state : σ}
  {object : ObjectWalk} {answer : Option Verdict} {answers : List (σ × Verdict)}

/-- Elements count as read-only on the surface at best, which an array that is not mutable already is. -/
theorem elementStage_nil (hshallow : shallow ≠ .mutable) (found : Verdict) :
    elementStage shallow [] found = .done shallow := by
  have hle : Level.readonlyShallow ≤ shallow := by
    cases shallow with
    | mutable => exact absurd rfl hshallow
    | _ => decide
  exact congrArg Step.done (max_eq_left ((Level.cap_le _ _).trans hle))

theorem feed_elementStage (hshallow : shallow ≠ .mutable) {rest : List TypeId} {found : Verdict}
    (h : Step.feed (resume host) (elementStage shallow rest found) answers = .done level) :
    level = shallow := by
  induction rest generalizing found answers with
  | nil =>
    rw [elementStage_nil hshallow, Step.feed_done] at h
    cases h
    rfl
  | cons child rest ih =>
    cases answers with
    | nil => cases h
    | cons given answers => exact ih h

theorem ends_elementStage (shallow : Level) (rest : List TypeId) (found : Verdict) :
    Step.Ends (resume host) (elementStage shallow rest found) := by
  induction rest generalizing found with
  | nil => exact .done _
  | cons child rest ih => exact .await fun state reply => ih _

theorem resume_of_await {child : TypeRef} {rest : ObjectWalk}
    (h : object.resume host state answer = .await child rest) (threshold : Level) :
    (container object threshold).resume host state answer =
      .await child (container rest threshold) := by
  rw [resume, h]

/-- Where the walk over the surface ends, the level stands or the elements are asked for. -/
theorem resume_of_done (h : object.resume host state answer = .done shallow) (threshold : Level) :
    (container object threshold).resume host state answer = .done shallow ∨
      shallow ≠ .mutable ∧ ∃ rest, (container object threshold).resume host state answer =
        elementStage shallow rest .unknown := by
  rw [resume, h]
  dsimp only
  split
  · exact Or.inl rfl
  · next hends =>
    refine Or.inr ⟨?_, _, rfl⟩
    rintro rfl
    exact hends rfl

theorem feed_of_done (hr : object.resume host state answer = .done shallow)
    (h : Step.feed (resume host) ((container object threshold).resume host state answer) answers =
      .done level) : level = shallow := by
  rcases resume_of_done hr threshold with hdone | ⟨hshallow, rest, hdone⟩
  · rw [hdone, Step.feed_done] at h
    cases h
    rfl
  · rw [hdone] at h
    exact feed_elementStage hshallow h

theorem feed_container
    (h : Step.feed (resume host) ((container object threshold).resume host state answer) answers =
      .done level) :
    Step.feed (ObjectWalk.resume host) (object.resume host state answer) answers = .done level := by
  induction answers generalizing object state answer with
  | nil =>
    cases hr : object.resume host state answer with
    | done shallow => rw [feed_of_done hr h, Step.feed_done]
    | await child rest =>
      rw [resume_of_await hr] at h
      cases h
  | cons given answers ih =>
    cases hr : object.resume host state answer with
    | done shallow => rw [feed_of_done hr h, Step.feed_done]
    | await child rest =>
      rw [resume_of_await hr] at h
      exact ih h

theorem ends_container
    (h : Step.Ends (ObjectWalk.resume host) (object.resume host state answer)) (threshold : Level) :
    Step.Ends (resume host) ((container object threshold).resume host state answer) := by
  generalize hstep : object.resume host state answer = step at h
  induction h generalizing object state answer with
  | done shallow =>
    rcases resume_of_done hstep threshold with hdone | ⟨_, rest, hdone⟩
    · rw [hdone]
      exact .done shallow
    · rw [hdone]
      exact ends_elementStage shallow rest .unknown
  | await _ ih =>
    rw [resume_of_await hstep]
    exact .await fun state reply => ih state reply rfl

theorem container_of_approach {id : TypeId} {context later : Context σ} {walk : ArrayWalk}
    (h : approach host id (host.shape context.state id) threshold context =
      (.walk (.array walk), later)) :
    ∃ isTuple, host.shape context.state id = .object (if isTuple then .tuple true else .array) ∧
      walk = .container ⟨id, isTuple, [id], .mutable, threshold,
        .scan (context.list host id).1⟩ threshold := by
  cases hs : host.shape context.state id with
  | object kind =>
    rw [hs, approach_object_list] at h
    split at h
    · cases h
    · cases kind with
      | plain => cases h
      | array =>
        cases h
        exact ⟨false, rfl, rfl⟩
      | tuple readonly =>
        cases readonly with
        | false => cases h
        | true =>
          cases h
          exact ⟨true, rfl, rfl⟩
  | _ =>
    rw [hs] at h
    cases h

/-- Every array and every read-only tuple is walked over as an object first. Whatever answers it gets, in
whatever states of the host, the walk ends; it ends with the level that the object has then ended with on
the same answers; and so it does if what is no reference is given any other elements. -/
theorem feed_array {σ : Type} (host : Host σ) (id : TypeId) (threshold : Level)
    (context later : Context σ) (walk : ArrayWalk)
    (h : approach host id (host.shape context.state id) threshold context =
      (.walk (.array walk), later)) :
    ∃ (isTuple : Bool) (object : ObjectWalk),
      host.shape context.state id = .object (if isTuple then .tuple true else .array) ∧
      walk = .container object threshold ∧
      object = ⟨id, isTuple, [id], .mutable, threshold, .scan (context.list host id).1⟩ ∧
      ∀ state,
        (∀ answers : Nat → σ × Verdict, ∃ count level, Step.feed (resume host)
          (walk.resume host state none) ((List.range count).map answers) = .done level) ∧
        (∀ answers level,
          Step.feed (resume host) (walk.resume host state none) answers = .done level →
          Step.feed (ObjectWalk.resume host) (object.resume host state none) answers =
            .done level) ∧
        ∀ arguments answers level, Step.feed (resume (host.rearrange arguments))
            (walk.resume (host.rearrange arguments) state none) answers = .done level →
          Step.feed (ObjectWalk.resume host) (object.resume host state none) answers =
            .done level := by
  obtain ⟨isTuple, hshape, rfl⟩ := container_of_approach h
  refine ⟨isTuple, _, hshape, rfl, rfl, fun state => ⟨?_, fun answers level => feed_container, ?_⟩⟩
  · intro answers
    exact (ends_container (ObjectWalk.ends_resume host state _ none) threshold).exists_feed answers
  · intro arguments answers level hfeed
    have hobject := feed_container hfeed
    rwa [ObjectWalk.resume_rearrange] at hobject

end ArrayWalk

/-- A read-only list of boxes that can be written. The list is no reference, so the boxes are met among
its elements only. -/
def TypeGraph.crate : TypeGraph where
  shape id :=
    match id.index with
    | 1 => .object .array
    | 2 => .object .plain
    | _ => .primitive
  properties id :=
    match id.index with
    | 1 => [.readonly "length" ⟨0⟩, .readonly "first" ⟨0⟩]
    | 2 => [{ name := "content", type := ⟨0⟩ }]
    | _ => []
  callable _ := false
  isReference _ := false
  typeArguments id := if id.index = 1 then [⟨2⟩, ⟨2⟩] else []
  indexSignature _ _ := none
  identity id := ⟨id.index⟩
  typeName _ := { evaluated := "Crate" }
  declarationFiles _ := []
  program := { currentDirectory := "/" }

/-- The walk over the list waits for two more answers after its surface is done, and the elements are
found mutable in vain. -/
theorem feed_crate :
    let host := TypeGraph.crate.host
    let object := TypeGraph.crate.surface ⟨1⟩ false [⟨1⟩] .immutable
    let walk := ArrayWalk.container object .immutable
    let answers : List (Unit × Verdict) := [((), .known .immutable), ((), .known .readonlyDeep),
      ((), .known .mutable), ((), .known .mutable)]
    approach host ⟨1⟩ (host.shape () ⟨1⟩) .immutable { state := () } =
      (.walk (.array walk), { state := () }) ∧
    Step.feed (ArrayWalk.resume host) (walk.resume host () none) answers = .done .readonlyDeep ∧
    Step.feed (ObjectWalk.resume host) (object.resume host () none) answers = .done .readonlyDeep := by
  intro host object walk answers
  have hwalk : approach host ⟨1⟩ (host.shape () ⟨1⟩) .immutable { state := () } =
      (.walk (.array walk), { state := () }) := rfl
  have hfed : Step.feed (ArrayWalk.resume host) (walk.resume host () none) answers =
      .done .readonlyDeep := rfl
  obtain ⟨isTuple, other, _, hcontainer, _, hfeed⟩ :=
    ArrayWalk.feed_array host ⟨1⟩ .immutable { state := () } { state := () } walk hwalk
  refine ⟨hwalk, hfed, ?_⟩
  rw [(ArrayWalk.container.inj hcontainer).1]
  exact (hfeed ()).2.1 answers _ hfed

end Immutability
