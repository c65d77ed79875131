import Immutability.Proofs.Evaluation
import Mathlib.Logic.Relation

/-!
# Children of a type

`children` lists the types that a walk over a type may ask for: members and branches, or the types of
properties, the type arguments and the values of index signatures. An index signature that can be
written, or whose values are of the declaring type itself, is judged without a question.

`Task.remaining` lists what a walk in progress may still ask for. Every question takes one type off, with
everything before it (`resume_suffix`), so a walk asks for children of its type only, and for finitely
many of them.
-/

set_option autoImplicit false

namespace Immutability

def bare (ids : List TypeId) : List TypeRef := ids.map fun id => { id }

theorem bare_append (ids others : List TypeId) : bare (ids ++ others) = bare ids ++ bare others :=
  List.map_append

theorem mem_bare {ids : List TypeId} {ref : TypeRef} :
    ref ∈ bare ids ↔ ref.node = none ∧ ref.id ∈ ids := by
  rcases ref with ⟨id, node⟩
  simp only [bare, List.mem_map, TypeRef.mk.injEq]
  constructor
  · rintro ⟨other, hmem, rfl, rfl⟩
    exact ⟨rfl, hmem⟩
  · rintro ⟨rfl, hmem⟩
    exact ⟨id, hmem, rfl, rfl⟩

namespace TypeGraph

variable (graph : TypeGraph)

/-- The type of the values of an index signature, if it has to be asked for. -/
def indexValue? (kind : IndexKind) (source : TypeId) : Option TypeId :=
  (graph.indexSignature source kind).bind fun signature =>
    if !signature.readonly then none
    else if signature.value = source then none
    else some signature.value

def indexValues (kind : IndexKind) (sources : List TypeId) : List TypeId :=
  sources.filterMap (graph.indexValue? kind)

def surfaceChildren (id : TypeId) (sources : List TypeId) : List TypeId :=
  (graph.properties id).map (·.type) ++ (graph.typeArguments id ++
    (graph.indexValues .string sources ++ graph.indexValues .number sources))

def children (id : TypeId) : List TypeRef :=
  match graph.shape id with
  | .error | .primitive => []
  | .union members => bare members
  | .conditional whenTrue whenFalse => [whenTrue, whenFalse]
  | .intersection members => bare (graph.surfaceChildren id members)
  | .object _ => bare (graph.surfaceChildren id [id])

/-- A type is reached from another by going from types to their children. -/
def Reaches : TypeRef → TypeRef → Prop :=
  Relation.ReflTransGen fun parent child => child ∈ graph.children parent.id

end TypeGraph

namespace ObjectWalk

variable (graph : TypeGraph)

/-- What a walk over an object may still ask for. -/
def remaining (walk : ObjectWalk) : List TypeId :=
  let afterArguments := graph.indexValues .string walk.sources ++
    graph.indexValues .number walk.sources
  let afterProperties := graph.typeArguments walk.id ++ afterArguments
  match walk.stage with
  | .scan properties => properties.map (·.type) ++ afterProperties
  | .properties rest => rest ++ afterProperties
  | .arguments rest _ => rest ++ afterArguments
  | .indexes .string rest _ => graph.indexValues .string rest ++ graph.indexValues .number walk.sources
  | .indexes .number rest _ => graph.indexValues .number rest

/-- A step stays with its object, and its question, with what remains after it, is the end of a
list. -/
def AsksWithin (owner : TypeId) (list : List TypeId) : Step ObjectWalk Level → Prop
  | .await child walk =>
    walk.id = owner ∧ ∃ id, child = { id } ∧ id :: walk.remaining graph <:+ list
  | .done _ => True

variable {graph} {owner : TypeId}

theorem AsksWithin.mono {small large : List TypeId} {step : Step ObjectWalk Level}
    (h : AsksWithin graph owner small step) (hle : small <:+ large) :
    AsksWithin graph owner large step := by
  cases step with
  | done value => trivial
  | await child walk =>
    obtain ⟨howner, id, hid, hs⟩ := h
    exact ⟨howner, id, hid, hs.trans hle⟩

theorem asksWithin_unlessMet {list : List TypeId} {walk : ObjectWalk}
    {next : ObjectWalk → Step ObjectWalk Level} (h : AsksWithin graph owner list (next walk)) :
    AsksWithin graph owner list (walk.unlessMet next) := by
  unfold unlessMet
  split
  · trivial
  · exact h

theorem gather_waits_suffix {kind : IndexKind} {upper : Level} {sources rest : List TypeId}
    {found later : Verdict} {value : TypeId}
    (h : gather graph.host () kind upper sources found = .waits value rest later) :
    value :: graph.indexValues kind rest <:+ graph.indexValues kind sources := by
  induction sources generalizing found with
  | nil => cases h
  | cons source sources ih =>
    have hcons : graph.indexValues kind sources <:+ graph.indexValues kind (source :: sources) := by
      unfold TypeGraph.indexValues
      rw [List.filterMap_cons]
      split
      · exact List.suffix_refl _
      · exact List.suffix_cons _ _
    rw [gather] at h
    split at h
    · exact (ih h).trans hcons
    · next signature hsig =>
      split at h
      · exact (ih h).trans hcons
      · split at h
        · exact (ih h).trans hcons
        · next hread hself =>
          cases h
          have hvalue : graph.indexValue? kind source = some signature.value := by
            have hsig : graph.indexSignature source kind = some signature := hsig
            rw [TypeGraph.indexValue?, hsig, Option.bind_some, if_neg hread, if_neg hself]
          have hlist : graph.indexValues kind (source :: rest) =
              signature.value :: graph.indexValues kind rest := by
            unfold TypeGraph.indexValues
            rw [List.filterMap_cons, hvalue]
          exact ⟨[], hlist.symm⟩

/-- Index signatures of one kind are asked for in order, before whatever follows them. -/
theorem asksWithin_indexStage (kind : IndexKind) (next : ObjectWalk → Step ObjectWalk Level)
    (walk : ObjectWalk) (rest : List TypeId) (found : Verdict) (list : List TypeId)
    (hnext : ∀ upper, AsksWithin graph walk.id list (next { walk with upper }))
    (hstage : ∀ later found,
      remaining graph { walk with stage := .indexes kind later found } =
        graph.indexValues kind later ++ list) :
    AsksWithin graph walk.id (graph.indexValues kind rest ++ list)
      (indexStage graph.host () kind next walk rest found) := by
  unfold indexStage
  cases hg : gather graph.host () kind walk.upper rest found with
  | waits value later found =>
    obtain ⟨before, hbefore⟩ := gather_waits_suffix hg
    refine ⟨rfl, value, rfl, before, ?_⟩
    rw [hstage, ← hbefore]
    simp
  | all found =>
    exact asksWithin_unlessMet ((hnext _).mono (List.suffix_append _ _))

theorem asksWithin_numberStage (walk : ObjectWalk) (rest : List TypeId) (found : Verdict) :
    AsksWithin graph walk.id (graph.indexValues .number rest)
      (numberStage graph.host () walk rest found) := by
  have h : AsksWithin graph walk.id (graph.indexValues .number rest ++ [])
      (numberStage graph.host () walk rest found) :=
    asksWithin_indexStage .number _ walk rest found [] (fun _ => trivial)
      (fun _ _ => (List.append_nil _).symm)
  rwa [List.append_nil] at h

theorem asksWithin_stringStage (walk : ObjectWalk) (rest : List TypeId) (found : Verdict) :
    AsksWithin graph walk.id (graph.indexValues .string rest ++ graph.indexValues .number walk.sources)
      (stringStage graph.host () walk rest found) :=
  asksWithin_indexStage .string _ walk rest found _
    (fun upper => asksWithin_numberStage { walk with upper } walk.sources .unknown)
    (fun _ _ => rfl)

theorem asksWithin_argumentStage (walk : ObjectWalk) (rest : List TypeId) (found : Verdict) :
    AsksWithin graph walk.id (rest ++ (graph.indexValues .string walk.sources ++
      graph.indexValues .number walk.sources)) (argumentStage graph.host () walk rest found) := by
  cases rest with
  | cons child rest => exact ⟨rfl, child, rfl, List.suffix_refl _⟩
  | nil =>
    rw [argumentStage_nil]
    apply asksWithin_unlessMet
    exact asksWithin_stringStage _ _ _

theorem asksWithin_afterProperties (walk : ObjectWalk) :
    AsksWithin graph walk.id (graph.typeArguments walk.id ++ (graph.indexValues .string walk.sources ++
      graph.indexValues .number walk.sources)) (afterProperties graph.host () walk) := by
  unfold afterProperties
  split
  · exact asksWithin_argumentStage walk _ _
  · exact (asksWithin_stringStage walk _ _).mono (List.suffix_append _ _)

theorem asksWithin_propertyStage (walk : ObjectWalk) (rest : List TypeId) :
    AsksWithin graph walk.id (rest ++ (graph.typeArguments walk.id ++
      (graph.indexValues .string walk.sources ++ graph.indexValues .number walk.sources)))
      (propertyStage graph.host () walk rest) := by
  cases rest with
  | cons child rest => exact ⟨rfl, child, rfl, List.suffix_refl _⟩
  | nil => exact asksWithin_afterProperties walk

theorem asksWithin_resume (graph : TypeGraph) (walk : ObjectWalk) (answer : Option Verdict) :
    AsksWithin graph walk.id (walk.remaining graph) (walk.resume graph.host () answer) := by
  unfold remaining
  cases hs : walk.stage with
  | scan properties =>
    by_cases hne : properties = []
    · subst hne
      rw [resume_scan_nil _ _ hs]
      exact asksWithin_afterProperties walk
    · rw [resume_scan _ _ hs hne]
      cases scanBound walk.isTuple properties walk.upper with
      | none => trivial
      | some upper => exact asksWithin_propertyStage { walk with lower := _, upper } _
  | properties rest =>
    cases answer with
    | none =>
      rw [resume_properties_none _ _ hs]
      exact asksWithin_propertyStage walk rest
    | some verdict =>
      rw [resume_properties_some _ _ hs]
      apply asksWithin_unlessMet
      exact asksWithin_propertyStage { walk with upper := _ } rest
  | arguments rest found =>
    rw [resume_arguments _ _ hs]
    exact asksWithin_argumentStage walk rest _
  | indexes kind rest found =>
    cases kind with
    | string =>
      rw [resume_strings _ _ hs]
      exact asksWithin_stringStage walk rest _
    | number =>
      rw [resume_numbers _ _ hs]
      exact asksWithin_numberStage walk rest _

end ObjectWalk

namespace ArrayWalk

def remaining (graph : TypeGraph) : ArrayWalk → List TypeId
  | container walk _ => walk.remaining graph ++ graph.typeArguments walk.id
  | elements _ rest _ => rest

end ArrayWalk

namespace Task

def remaining (graph : TypeGraph) : Task → List TypeRef
  | least walk => walk.rest
  | object walk => bare (walk.remaining graph)
  | array walk => bare (walk.remaining graph)

theorem bare_suffix {small large : List TypeId} (h : small <:+ large) : bare small <:+ bare large :=
  h.map _

theorem least_resume_suffix {walk rest : Least} {answer : Option Verdict} {child : TypeRef}
    (h : walk.resume answer = .await child rest) : child :: rest.rest <:+ walk.rest := by
  have hnext : ∀ walk : Least, walk.next = .await child rest → child :: rest.rest = walk.rest := by
    rintro ⟨list, found⟩ h
    cases list with
    | nil => cases h
    | cons first list =>
      cases h
      rfl
  cases answer with
  | none => exact hnext walk h ▸ List.suffix_refl _
  | some verdict =>
    unfold Least.resume at h
    dsimp only at h
    split at h
    · cases h
    · exact hnext _ h ▸ List.suffix_refl _

theorem array_resume_suffix {graph : TypeGraph} {walk rest : ArrayWalk} {answer : Option Verdict}
    {child : TypeRef} (h : walk.resume graph.host () answer = .await child rest) :
    ∃ id, child = { id } ∧ id :: rest.remaining graph <:+ walk.remaining graph := by
  have helements : ∀ (shallow : Level) (list : List TypeId) (found : Verdict),
      ArrayWalk.elementStage shallow list found = .await child rest →
      ∃ id, child = { id } ∧ id :: rest.remaining graph = list := by
    intro shallow list found h
    cases list with
    | nil => cases h
    | cons first list =>
      cases h
      exact ⟨first, rfl, rfl⟩
  cases walk with
  | elements shallow list found =>
    obtain ⟨id, hid, hlist⟩ := helements _ _ _ h
    exact ⟨id, hid, hlist ▸ List.suffix_refl _⟩
  | container object threshold =>
    have hobject := ObjectWalk.asksWithin_resume graph object answer
    unfold ArrayWalk.resume at h
    dsimp only at h
    split at h
    · next question object' hr =>
      cases h
      rw [hr] at hobject
      obtain ⟨howner, id, hid, before, hbefore⟩ := hobject
      refine ⟨id, hid, before, ?_⟩
      simp only [ArrayWalk.remaining, ← hbefore, howner, List.append_assoc, List.cons_append]
    · split at h
      · cases h
      · obtain ⟨id, hid, hlist⟩ := helements _ _ _ h
        exact ⟨id, hid, hlist ▸ List.suffix_append _ _⟩

/-- A question takes one type off what remains, with everything before it. -/
theorem resume_suffix {graph : TypeGraph} {task rest : Task} {answer : Option Verdict}
    {child : TypeRef} (h : task.resume graph.host () answer = .await child rest) :
    child :: rest.remaining graph <:+ task.remaining graph := by
  cases task with
  | least walk =>
    rw [resume] at h
    cases hr : walk.resume answer with
    | done value =>
      rw [hr] at h
      cases h
    | await question walk' =>
      rw [hr] at h
      cases h
      exact least_resume_suffix hr
  | object walk =>
    have hasks := ObjectWalk.asksWithin_resume graph walk answer
    rw [resume] at h
    cases hr : walk.resume graph.host () answer with
    | done value =>
      rw [hr] at h
      cases h
    | await question walk' =>
      rw [hr] at h hasks
      cases h
      obtain ⟨_, id, rfl, hs⟩ := hasks
      exact bare_suffix hs
  | array walk =>
    rw [resume] at h
    cases hr : walk.resume graph.host () answer with
    | done value =>
      rw [hr] at h
      cases h
    | await question walk' =>
      rw [hr] at h
      cases h
      obtain ⟨id, rfl, hs⟩ := array_resume_suffix hr
      exact bare_suffix hs

end Task

namespace TypeGraph

variable (graph : TypeGraph)

def surface (id : TypeId) (isTuple : Bool) (sources : List TypeId) (threshold : Level) : ObjectWalk :=
  { id, isTuple, sources, upper := threshold, stage := .scan (graph.properties id) }

theorem approach_object (id : TypeId) (kind : ObjectKind) (threshold : Level) :
    graph.approach id (.object kind) threshold =
      if (graph.properties id).isEmpty && graph.callable id then .leaf (.known .immutable)
      else
        match kind with
        | .tuple false => .leaf (.known .mutable)
        | .tuple true => .walk (.array (.container (graph.surface id true [id] threshold) threshold))
        | .array => .walk (.array (.container (graph.surface id false [id] threshold) threshold))
        | .plain => .walk (.object (graph.surface id false [id] threshold)) := by
  cases hc : (graph.properties id).isEmpty && graph.callable id with
  | true => simp [approach, Immutability.approach, Context.list, host, hc]
  | false =>
    simp only [approach, Immutability.approach, Context.list, host, hc, Bool.false_eq_true, ↓reduceIte]
    cases kind with
    | tuple readonly => cases readonly <;> rfl
    | _ => rfl

inductive Walks (graph : TypeGraph) (id : TypeId) (threshold : Level) : Task → Prop where
  | union {members : List TypeId} : graph.shape id = .union members →
      Walks graph id threshold (.least { rest := bare members })
  | conditional {whenTrue whenFalse : TypeRef} :
      graph.shape id = .conditional whenTrue whenFalse →
      Walks graph id threshold (.least { rest := [whenTrue, whenFalse] })
  | intersection {members : List TypeId} : graph.shape id = .intersection members →
      Walks graph id threshold (.object (graph.surface id false members threshold))
  | plain : graph.shape id = .object .plain →
      ¬ ((graph.properties id).isEmpty && graph.callable id) = true →
      Walks graph id threshold (.object (graph.surface id false [id] threshold))
  | array : graph.shape id = .object .array →
      ¬ ((graph.properties id).isEmpty && graph.callable id) = true →
      Walks graph id threshold (.array (.container (graph.surface id false [id] threshold) threshold))
  | tuple : graph.shape id = .object (.tuple true) →
      ¬ ((graph.properties id).isEmpty && graph.callable id) = true →
      Walks graph id threshold (.array (.container (graph.surface id true [id] threshold) threshold))

variable {graph} {id : TypeId} {threshold : Level} {task : Task}

theorem walks_of_approach (h : graph.approach id (graph.shape id) threshold = .walk task) :
    graph.Walks id threshold task := by
  cases hs : graph.shape id with
  | error =>
    rw [hs] at h
    cases h
  | primitive =>
    rw [hs] at h
    cases h
  | union members =>
    rw [hs] at h
    cases h
    exact .union hs
  | conditional whenTrue whenFalse =>
    rw [hs] at h
    cases h
    exact .conditional hs
  | intersection members =>
    rw [hs] at h
    cases h
    exact .intersection hs
  | object kind =>
    rw [hs, approach_object] at h
    split at h
    · cases h
    · next hcallable =>
      split at h
      · cases h
      · cases h
        exact .tuple hs hcallable
      · cases h
        exact .array hs hcallable
      · cases h
        exact .plain hs hcallable

theorem mem_bare_surfaceChildren {child : TypeRef} {isTuple : Bool}
    (h : child ∈ bare ((ArrayWalk.container (graph.surface id isTuple [id] threshold)
      threshold).remaining graph)) :
    child ∈ bare (graph.surfaceChildren id [id]) := by
  rw [mem_bare] at h ⊢
  obtain ⟨hnode, hmem⟩ := h
  refine ⟨hnode, ?_⟩
  rcases List.mem_append.mp hmem with hmem | hmem
  · exact hmem
  · exact List.mem_append_right _ (List.mem_append_left _ hmem)

theorem mem_children_of_walk {child : TypeRef}
    (h : graph.approach id (graph.shape id) threshold = .walk task)
    (hc : child ∈ task.remaining graph) : child ∈ graph.children id := by
  unfold children
  cases walks_of_approach h with
  | union hs => rwa [hs]
  | conditional hs => rwa [hs]
  | intersection hs => rwa [hs]
  | plain hs _ => rwa [hs]
  | array hs _ =>
    rw [hs]
    exact mem_bare_surfaceChildren hc
  | tuple hs _ =>
    rw [hs]
    exact mem_bare_surfaceChildren hc

end TypeGraph

/-! ### Walks whose questions get replies -/

/-- A step yields a value if its walk can end with it on admissible replies. -/
inductive Step.Yields {ω α : Type} (resume : ω → Option Verdict → Step ω α)
    (replies : TypeRef → Verdict → Prop) : Step ω α → α → Prop where
  | done (result : α) : Yields resume replies (.done result) result
  | await {child : TypeRef} {walk : ω} {reply : Verdict} {result : α} :
      replies child reply → Yields resume replies (resume walk (some reply)) result →
      Yields resume replies (.await child walk) result

theorem Step.Yields.mono {ω α : Type} {resume : ω → Option Verdict → Step ω α}
    {replies others : TypeRef → Verdict → Prop}
    (hreplies : ∀ child reply, replies child reply → others child reply) {step : Step ω α}
    {result : α} (h : Yields resume replies step result) : Yields resume others step result := by
  induction h with
  | done result => exact .done result
  | await hreply _ ih => exact .await (hreplies _ _ hreply) ih

/-- A walk ends if every child can be answered. -/
theorem Task.exists_yields {graph : TypeGraph} {replies : TypeRef → Verdict → Prop}
    (hreplies : ∀ child, ∃ reply, replies child reply) (task : Task) (answer : Option Verdict) :
    ∃ verdict, Step.Yields (Task.resume graph.host ()) replies
      (task.resume graph.host () answer) verdict := by
  induction hn : (task.remaining graph).length using Nat.strongRecOn generalizing task answer with
  | ind n ih =>
    cases hr : task.resume graph.host () answer with
    | done verdict => exact ⟨verdict, .done verdict⟩
    | await child rest =>
      have hless : (rest.remaining graph).length < n := by
        rw [← hn]
        exact (Task.resume_suffix hr).length_le
      obtain ⟨reply, hreply⟩ := hreplies child
      obtain ⟨verdict, hyields⟩ := ih _ hless rest (some reply) rfl
      exact ⟨verdict, .await hreply hyields⟩

/-- A walk comes back if its children do. A property of caches that every child keeps, the walk
keeps. -/
theorem TypeGraph.exists_follows {graph : TypeGraph} {rules : List Rule} {threshold : Level}
    {allowed : TypeRef → Prop} (good : Cache → Prop) (replies : TypeRef → Verdict → Prop)
    (hchildren : ∀ child, allowed child → ∀ cache, good cache → ∃ status final,
      graph.Evaluates rules child threshold cache status final ∧
        replies child status.settle ∧ good final)
    {task : Task} (hallowed : ∀ child ∈ task.remaining graph, allowed child)
    (answer : Option Verdict) {cache : Cache} (hgood : good cache) :
    ∃ verdict final, graph.Follows rules threshold task answer cache verdict final ∧
      Step.Yields (Task.resume graph.host ()) replies (task.resume graph.host () answer) verdict ∧
      good final := by
  -- Each question takes a type off what remains, so the walk is over after finitely many.
  induction hn : (task.remaining graph).length using Nat.strongRecOn generalizing task answer cache with
  | ind n ih =>
    cases hr : task.resume graph.host () answer with
    | done verdict => exact ⟨verdict, cache, .of_done hr, .done verdict, hgood⟩
    | await child rest =>
      obtain ⟨before, hbefore⟩ := Task.resume_suffix hr
      have hmem : ∀ other ∈ child :: rest.remaining graph, other ∈ task.remaining graph :=
        fun other h => hbefore ▸ List.mem_append_right before h
      obtain ⟨status, middle, hchild, hreply, hmiddle⟩ :=
        hchildren child (hallowed child (hmem child List.mem_cons_self)) cache hgood
      have hless : (rest.remaining graph).length < n := by
        rw [← hn, ← hbefore, List.length_append, List.length_cons]
        omega
      obtain ⟨verdict, final, hrest, hyields, hfinal⟩ := ih _ hless
        (fun other h => hallowed other (hmem other (List.mem_cons_of_mem _ h)))
        (some status.settle) hmiddle rfl
      exact ⟨verdict, final, .of_await hr hchild hrest, .await hreply hyields, hfinal⟩

end Immutability
