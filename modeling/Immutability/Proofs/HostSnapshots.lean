import Immutability.Proofs.Children

/-!
# Snapshots of a host

What a host says in one state is a type graph. A walk does not change the state, and entering a type
lists its properties once at most, so over the host both come to what they come to over the graph of the
present state (`Task.resume_snapshot`, `enter_snapshot`).

Two graphs need not say the same about all types. If they concur on the types that are known, a walk
over known types goes the same way over both and asks for known types only.
-/

set_option autoImplicit false

namespace Immutability

variable {σ : Type}

/-- What a host says in a state. Whether a type can be called is asked after its properties were
listed. -/
def Host.snapshot (host : Host σ) (state : σ) : TypeGraph where
  shape := host.shape state
  properties id := (host.properties state id).properties
  callable id := host.callable (host.properties state id).state id
  isReference := host.isReference state
  typeArguments := host.typeArguments state
  indexSignature := host.indexSignature state
  identity := host.identity state
  typeName := host.typeName state
  declarationFiles := host.declarationFiles state
  program := host.program state

/-! ### Walks over a snapshot -/

namespace ObjectWalk

variable (host : Host σ) (state : σ)

theorem gather_snapshot (kind : IndexKind) (upper : Level) (sources : List TypeId) (found : Verdict) :
    gather (host.snapshot state).host () kind upper sources found =
      gather host state kind upper sources found := by
  induction sources generalizing found with
  | nil => rfl
  | cons source sources ih =>
    have hsame : (host.snapshot state).host.indexSignature () source kind =
        host.indexSignature state source kind := rfl
    simp only [gather, hsame, ih]

theorem stringStage_snapshot :
    stringStage (host.snapshot state).host () = stringStage host state := by
  funext walk rest found
  simp only [stringStage, numberStage, indexStage, gather_snapshot]

theorem afterProperties_snapshot :
    afterProperties (host.snapshot state).host () = afterProperties host state := by
  funext walk
  have hreference : (host.snapshot state).host.isReference () walk.id =
      host.isReference state walk.id := rfl
  have harguments : (host.snapshot state).host.typeArguments () walk.id =
      host.typeArguments state walk.id := rfl
  simp only [afterProperties, hreference, harguments, argumentStage, stringStage_snapshot]

theorem resume_snapshot (walk : ObjectWalk) (answer : Option Verdict) :
    walk.resume (host.snapshot state).host () answer = walk.resume host state answer := by
  simp only [resume, propertyStage, argumentStage, numberStage, indexStage, gather_snapshot,
    stringStage_snapshot, afterProperties_snapshot]

end ObjectWalk

theorem ArrayWalk.resume_snapshot (host : Host σ) (state : σ) (walk : ArrayWalk)
    (answer : Option Verdict) :
    walk.resume (host.snapshot state).host () answer = walk.resume host state answer := by
  cases walk with
  | elements shallow rest found => rfl
  | container object threshold =>
    have harguments : (host.snapshot state).host.typeArguments () object.id =
        host.typeArguments state object.id := rfl
    simp only [resume, ObjectWalk.resume_snapshot, harguments]

/-- A walk over a host is a walk over what the host says in the present state. -/
theorem Task.resume_snapshot (host : Host σ) (state : σ) (task : Task) (answer : Option Verdict) :
    task.resume (host.snapshot state).host () answer = task.resume host state answer := by
  cases task with
  | least walk => rfl
  | object walk => simp only [resume, ObjectWalk.resume_snapshot]
  | array walk => simp only [resume, ArrayWalk.resume_snapshot]

/-! ### Entering a type of a snapshot -/

def Shape.isListed : Shape → Bool
  | .intersection _ | .object _ => true
  | _ => false

def Shape.ids : Shape → List TypeId
  | .union members | .intersection members => members
  | .conditional whenTrue whenFalse => [whenTrue.id, whenFalse.id]
  | _ => []

namespace Host

def judged (host : Host σ) (state : σ) (id : TypeId) : σ :=
  if (host.shape state id).isListed then (host.properties state id).state else state

def visited (host : Host σ) (rules : List Rule) (state : σ) (ref : TypeRef) (threshold : Level) : σ :=
  match (host.snapshot state).demand rules ref threshold with
  | .judged _ _ => host.judged state ref.id
  | _ => state

def entered (host : Host σ) (rules : List Rule) (state : σ) (ref : TypeRef) (threshold : Level)
    (cache : Cache) : σ :=
  match cache.lookup ((host.snapshot state).key ref) (.known threshold) with
  | .hit _ => state
  | _ => host.visited rules state ref threshold

end Host

section Entering

variable (host : Host σ) (rules : List Rule) (ref : TypeRef) (threshold : Level)

theorem approach_object_list (id : TypeId) (kind : ObjectKind) (context : Context σ) :
    approach host id (.object kind) threshold context =
      (if (context.list host id).1.isEmpty && host.callable (context.list host id).2.state id then
        .leaf (.known .immutable)
      else
        match kind with
        | .tuple false => .leaf (.known .mutable)
        | .tuple true => .walk (.array (.container ⟨id, true, [id], .mutable, threshold,
            .scan (context.list host id).1⟩ threshold))
        | .array => .walk (.array (.container ⟨id, false, [id], .mutable, threshold,
            .scan (context.list host id).1⟩ threshold))
        | .plain => .walk (.object ⟨id, false, [id], .mutable, threshold,
            .scan (context.list host id).1⟩), (context.list host id).2) := by
  simp only [approach]
  split
  · rfl
  · cases kind with
    | tuple readonly => cases readonly <;> rfl
    | _ => rfl

theorem approach_snapshot (id : TypeId) (context : Context σ) :
    ∃ later, approach host id (host.shape context.state id) threshold context =
        ((host.snapshot context.state).approach id (host.shape context.state id) threshold, later) ∧
      later.cache = context.cache ∧ later.state = host.judged context.state id := by
  unfold Host.judged
  cases host.shape context.state id with
  | intersection members => exact ⟨_, rfl, rfl, rfl⟩
  | object kind =>
    rw [TypeGraph.approach_object, approach_object_list]
    exact ⟨_, rfl, rfl, rfl⟩
  | _ => exact ⟨_, rfl, rfl, rfl⟩

/-- Filing a verdict leaves the state alone, and what is filed does not depend on the host. -/
theorem conclude_spec (pending : Option PendingRule) (verdict : Verdict) (context : Context σ) :
    ∃ later, conclude host ref threshold pending verdict context =
        ((conclusion threshold pending verdict).value, later) ∧
      later.state = context.state ∧
      later.cache = context.cache.record ref (host.identity context.state ref.id)
        (conclusion threshold pending verdict) := by
  cases pending with
  | none => exact ⟨_, rfl, rfl, rfl⟩
  | some rule =>
    unfold conclude conclusion
    dsimp only
    split <;> exact ⟨_, rfl, rfl, rfl⟩

def TypeGraph.begin (graph : TypeGraph) (ref : TypeRef) (threshold : Level)
    (pending : Option PendingRule) (cache : Cache) : Entered × Cache :=
  match graph.approach ref.id (graph.shape ref.id) threshold with
  | .leaf verdict =>
    (.ready (conclusion threshold pending verdict).value,
      graph.file ref (conclusion threshold pending verdict) (graph.file ref .inProgress cache))
  | .walk task => (.frame { ref, threshold, pending, task }, graph.file ref .inProgress cache)

variable {host} (hidentity : ∀ state later, host.identity later = host.identity state)
include hidentity

theorem descend_snapshot (pending : Option PendingRule) (context : Context σ) :
    ∃ later, descend host ref (host.shape context.state ref.id) threshold pending context =
        (((host.snapshot context.state).begin ref threshold pending context.cache).1, later) ∧
      later.cache = ((host.snapshot context.state).begin ref threshold pending context.cache).2 ∧
      later.state = host.judged context.state ref.id := by
  obtain ⟨begun, happroach, hcache, hstate⟩ := approach_snapshot host threshold ref.id
    ((context.record host ref .inProgress).note fun _ => .markedCalculating ref.id)
  change approach host ref.id (host.shape context.state ref.id) threshold _ =
    ((host.snapshot context.state).approach ref.id ((host.snapshot context.state).shape ref.id)
      threshold, _) at happroach
  unfold TypeGraph.begin descend
  dsimp only
  rw [happroach]
  cases (host.snapshot context.state).approach ref.id ((host.snapshot context.state).shape ref.id)
      threshold with
  | walk task => exact ⟨begun, rfl, hcache, hstate⟩
  | leaf verdict =>
    -- the verdict is filed after the listing, under the same identity
    obtain ⟨ended, hended, hsame, hfiled⟩ := conclude_spec host ref threshold pending verdict begun
    dsimp only
    rw [hended]
    refine ⟨ended, rfl, ?_, hsame.trans hstate⟩
    rw [hfiled, hcache, hidentity context.state begun.state]
    rfl

theorem visit_snapshot (context : Context σ) :
    ∃ later, visit host rules ref threshold context =
        (((host.snapshot context.state).visit rules ref threshold context.cache).1, later) ∧
      later.cache = ((host.snapshot context.state).visit rules ref threshold context.cache).2 ∧
      later.state = host.visited rules context.state ref threshold := by
  have hshape : (host.snapshot context.state).shape ref.id = host.shape context.state ref.id := rfl
  have hsubject : (host.snapshot context.state).host.subject () ref =
      host.subject context.state ref := rfl
  have hdescend := fun judged => @descend_snapshot σ host ref judged hidentity
  unfold visit TypeGraph.visit Host.visited TypeGraph.demand
  rw [hshape, hsubject]
  by_cases hs : host.shape context.state ref.id = .error
  · rw [if_pos hs, if_pos hs]
    exact ⟨_, rfl, rfl, rfl⟩
  · simp only [if_neg hs]
    by_cases he : rules.isEmpty = true
    · rw [List.isEmpty_iff.mp he]
      exact hdescend threshold none context
    · rw [if_neg he]
      cases Rule.find? rules (host.subject context.state ref) with
      | none => exact hdescend threshold none context
      | some rule =>
        dsimp only
        cases ho : rule.origin with
        | none => exact ⟨_, rfl, rfl, rfl⟩
        | some origin => exact hdescend .immutable _ (context.note _)

/-- Entering a type over a host is entering it over what the host says in the present state. -/
theorem enter_snapshot (context : Context σ) :
    ∃ later, enter host rules ref threshold context =
        (((host.snapshot context.state).enter rules ref threshold context.cache).1, later) ∧
      later.cache = ((host.snapshot context.state).enter rules ref threshold context.cache).2 ∧
      later.state = host.entered rules context.state ref threshold context.cache := by
  have hkey : context.key host ref = (host.snapshot context.state).key ref := rfl
  unfold enter TypeGraph.enter Host.entered Context.consult
  dsimp only
  rw [hkey]
  cases context.cache.lookup ((host.snapshot context.state).key ref) (.known threshold) with
  | hit status => exact ⟨_, rfl, rfl, rfl⟩
  | absent => exact visit_snapshot rules ref threshold hidentity context
  | below value => exact visit_snapshot rules ref threshold hidentity (context.note _)

end Entering

/-- Entering a type comes to listing its properties. -/
structure TypeGraph.EntersListing (graph : TypeGraph) (rules : List Rule) (ref : TypeRef) (threshold : Level)
    (cache : Cache) : Prop where
  missed : ∀ status, cache.lookup (graph.key ref) (.known threshold) ≠ .hit status
  judged : ∃ judged pending, graph.demand rules ref threshold = .judged judged pending
  listed : (graph.shape ref.id).isListed = true

section Listing

variable {host : Host σ} {state : σ} {rules : List Rule} {ref : TypeRef} {threshold : Level}
  {cache : Cache}

theorem Host.entered_of_lists (h : (host.snapshot state).EntersListing rules ref threshold cache) :
    host.entered rules state ref threshold cache = (host.properties state ref.id).state := by
  obtain ⟨judged, pending, hdemand⟩ := h.judged
  unfold entered
  split
  · next status hl => exact absurd hl (h.missed status)
  · rw [visited, hdemand]
    exact if_pos h.listed

theorem Host.entered_of_not_lists (h : ¬ (host.snapshot state).EntersListing rules ref threshold cache) :
    host.entered rules state ref threshold cache = state := by
  unfold entered
  split
  · rfl
  · next hmiss =>
    unfold visited
    split
    · next judged pending hdemand =>
      exact if_neg fun hlisted => h ⟨hmiss, ⟨judged, pending, hdemand⟩, hlisted⟩
    · rfl

end Listing

namespace TypeGraph

variable {one two : TypeGraph} {rules : List Rule} {ref : TypeRef} {threshold : Level} {cache : Cache}

theorem approach_congr {id : TypeId} (hshape : two.shape id = one.shape id)
    (hlisted : (one.shape id).isListed = true →
      two.properties id = one.properties id ∧ two.callable id = one.callable id)
    (threshold : Level) :
    two.approach id (two.shape id) threshold = one.approach id (one.shape id) threshold := by
  rw [hshape]
  cases hs : one.shape id with
  | intersection members =>
    obtain ⟨hproperties, _⟩ := hlisted (by rw [hs]; rfl)
    simp only [approach, Immutability.approach, Context.list, host, hproperties]
  | object kind =>
    obtain ⟨hproperties, hcallable⟩ := hlisted (by rw [hs]; rfl)
    simp only [approach_object, surface, hproperties, hcallable]
  | _ => rfl

/-- What entering a type comes to depends on what is said about this type. -/
theorem enter_congr (hshape : two.shape ref.id = one.shape ref.id)
    (hidentity : two.identity ref.id = one.identity ref.id)
    (hdemand : two.demand rules ref threshold = one.demand rules ref threshold)
    (hlisted : one.EntersListing rules ref threshold cache →
      two.properties ref.id = one.properties ref.id ∧ two.callable ref.id = one.callable ref.id) :
    two.enter rules ref threshold cache = one.enter rules ref threshold cache := by
  have hkey : two.key ref = one.key ref := by rw [key, hidentity, key]
  have hfile : two.file ref = one.file ref := by
    funext entry cache
    rw [file, hidentity, file]
  unfold enter
  rw [hkey]
  cases hl : cache.lookup (one.key ref) (.known threshold) with
  | hit status => rfl
  | _ =>
    simp only [visit, hdemand, hfile]
    cases hd : one.demand rules ref threshold with
    | judged judged pending =>
      have happroach := approach_congr hshape
        (fun hs => hlisted ⟨by simp [hl], ⟨judged, pending, hd⟩, hs⟩) judged
      simp only [happroach]
    | _ => rfl

theorem lists_congr (hshape : two.shape ref.id = one.shape ref.id)
    (hidentity : two.identity ref.id = one.identity ref.id)
    (hdemand : two.demand rules ref threshold = one.demand rules ref threshold) :
    two.EntersListing rules ref threshold cache ↔ one.EntersListing rules ref threshold cache := by
  have hkey : two.key ref = one.key ref := by rw [key, hidentity, key]
  constructor
  · intro h
    exact ⟨hkey ▸ h.missed, hdemand ▸ h.judged, hshape ▸ h.listed⟩
  · intro h
    exact ⟨hkey ▸ h.missed, hdemand ▸ h.judged, hshape ▸ h.listed⟩

/-- The graphs say the same about the known types, whose type arguments and index values are known. -/
structure Concurs (one : TypeGraph) (known : TypeId → Prop) (two : TypeGraph) : Prop where
  isReference : ∀ id, known id → two.isReference id = one.isReference id
  typeArguments : ∀ id, known id → two.typeArguments id = one.typeArguments id
  indexSignature : ∀ id kind, known id → two.indexSignature id kind = one.indexSignature id kind
  arguments : ∀ id, known id → ∀ argument ∈ one.typeArguments id, known argument
  values : ∀ id kind signature, known id → one.indexSignature id kind = some signature →
    known signature.value

end TypeGraph

/-! ### Walks over known types -/

def ObjectStage.ids : ObjectStage → List TypeId
  | .scan listed => listed.map (·.type)
  | .properties rest | .arguments rest _ | .indexes _ rest _ => rest

structure ObjectWalk.Among (known : TypeId → Prop) (walk : ObjectWalk) : Prop where
  id : known walk.id
  sources : ∀ source ∈ walk.sources, known source
  stage : ∀ id ∈ walk.stage.ids, known id

def ArrayWalk.Among (known : TypeId → Prop) : ArrayWalk → Prop
  | container walk _ => walk.Among known
  | elements _ rest _ => ∀ id ∈ rest, known id

def Task.Among (known : TypeId → Prop) : Task → Prop
  | least walk => ∀ ref ∈ walk.rest, known ref.id
  | object walk => walk.Among known
  | array walk => walk.Among known

variable {known more : TypeId → Prop}

theorem ObjectWalk.Among.mono {walk : ObjectWalk} (h : walk.Among known)
    (hmore : ∀ id, known id → more id) : walk.Among more where
  id := hmore _ h.id
  sources source hs := hmore _ (h.sources source hs)
  stage id hid := hmore _ (h.stage id hid)

theorem ObjectWalk.Among.bounds {walk : ObjectWalk} (h : walk.Among known) (lower upper : Level) :
    ObjectWalk.Among known { walk with lower, upper } := ⟨h.id, h.sources, h.stage⟩

theorem Task.Among.mono {task : Task} (h : task.Among known) (hmore : ∀ id, known id → more id) :
    task.Among more := by
  cases task with
  | least walk => exact fun ref href => hmore _ (h ref href)
  | object walk => exact ObjectWalk.Among.mono h hmore
  | array walk =>
    cases walk with
    | container walk threshold => exact ObjectWalk.Among.mono h hmore
    | elements shallow rest found => exact fun id hid => hmore _ (h id hid)

def Entered.Among (known : TypeId → Prop) : Entered → Prop
  | .ready _ => True
  | .frame begun => begun.task.Among known

namespace TypeGraph

variable {graph : TypeGraph} {id : TypeId} {rules : List Rule} {ref : TypeRef} {threshold : Level}
  {cache : Cache}

theorem Walks.among {task : Task} (h : graph.Walks id threshold task) (hid : known id)
    (hshape : ∀ other ∈ (graph.shape id).ids, known other)
    (hlisted : (graph.shape id).isListed = true → ∀ property ∈ graph.properties id,
      known property.type) : task.Among known := by
  have hsurface : ∀ isTuple sources, (∀ source ∈ sources, known source) →
      (graph.shape id).isListed = true →
      (graph.surface id isTuple sources threshold).Among known := by
    intro isTuple sources hsources hs
    refine ⟨hid, hsources, fun type htype => ?_⟩
    obtain ⟨property, hproperty, rfl⟩ := List.mem_map.mp htype
    exact hlisted hs property hproperty
  have hself : ∀ source ∈ [id], known source := by
    simpa using hid
  cases h with
  | union hs =>
    rw [hs] at hshape
    exact fun ref href => hshape ref.id (mem_bare.mp href).2
  | @conditional whenTrue whenFalse hs =>
    rw [hs] at hshape
    intro ref href
    exact hshape ref.id (List.mem_map_of_mem href : ref.id ∈ [whenTrue, whenFalse].map (·.id))
  | @intersection members hs =>
    have hmembers : ∀ member ∈ members, known member := by
      rw [hs] at hshape
      exact hshape
    exact hsurface false members hmembers (congrArg Shape.isListed hs)
  | plain hs _ => exact hsurface false [id] hself (congrArg Shape.isListed hs)
  | array hs _ => exact hsurface false [id] hself (congrArg Shape.isListed hs)
  | tuple hs _ => exact hsurface true [id] hself (congrArg Shape.isListed hs)

/-- What a type is judged by is known if the type and what is said about it are. -/
theorem enter_among (hid : known ref.id) (hshape : ∀ other ∈ (graph.shape ref.id).ids, known other)
    (hlisted : graph.EntersListing rules ref threshold cache → ∀ property ∈ graph.properties ref.id,
      known property.type) : (graph.enter rules ref threshold cache).1.Among known := by
  cases hentered : graph.enter rules ref threshold cache with
  | mk entered final =>
    cases enters_of_enter hentered with
    | walk hmissed hdemand happroach =>
      refine (walks_of_approach happroach).among hid hshape fun hs => ?_
      exact hlisted ⟨hmissed, ⟨_, _, hdemand⟩, hs⟩
    | _ => trivial

end TypeGraph

/-- A walk does the same over both graphs, and what it asks for and goes on with is known. -/
structure Step.Concurs {ω α : Type} (known : TypeId → Prop) (among : ω → Prop) (one two : Step ω α) :
    Prop where
  same : two = one
  among : ∀ child walk, one = .await child walk → known child.id ∧ among walk

namespace Step.Concurs

variable {ω ω' α α' : Type} {among : ω → Prop}

theorem done (value : α) : Concurs known among (.done value) (.done value) := ⟨rfl, nofun⟩

theorem await {child : TypeRef} {walk : ω} (hchild : known child.id) (hwalk : among walk) :
    Concurs known among (Step.await child walk : Step ω α) (.await child walk) := by
  refine ⟨rfl, ?_⟩
  intro other walk' h
  cases h
  exact ⟨hchild, hwalk⟩

theorem map {among' : ω' → Prop} {f : ω → ω'} {g : α → α'} {one two : Step ω α}
    (h : Concurs known among one two) (hf : ∀ walk, among walk → among' (f walk)) :
    Concurs known among' (one.map f g) (two.map f g) := by
  obtain ⟨rfl, hamong⟩ := h
  cases two with
  | done value => exact done _
  | await child walk =>
    obtain ⟨hchild, hwalk⟩ := hamong child walk rfl
    exact await hchild (hf walk hwalk)

end Step.Concurs

variable {one two : TypeGraph}

namespace ObjectWalk

open Step (Concurs)

theorem concurs_unlessMet {walk : ObjectWalk} {next other : ObjectWalk → Step ObjectWalk Level}
    (h : Concurs known (Among known) (next walk) (other walk)) :
    Concurs known (Among known) (walk.unlessMet next) (walk.unlessMet other) := by
  unfold unlessMet
  split
  · exact .done _
  · exact h

section Stages

variable (h : one.Concurs known two)
include h

theorem gather_concurs {rest : List TypeId} (hrest : ∀ source ∈ rest, known source)
    (kind : IndexKind) (upper : Level) (found : Verdict) :
    gather two.host () kind upper rest found = gather one.host () kind upper rest found := by
  induction rest generalizing found with
  | nil => rfl
  | cons source rest ih =>
    obtain ⟨hsource, hrest⟩ := List.forall_mem_cons.mp hrest
    have hsame : two.host.indexSignature () source kind = one.host.indexSignature () source kind :=
      h.indexSignature source kind hsource
    simp only [gather, hsame, ih hrest]

theorem known_of_gather {rest others : List TypeId} (hrest : ∀ source ∈ rest, known source)
    {kind : IndexKind} {upper : Level} {found after : Verdict} {value : TypeId}
    (hg : gather one.host () kind upper rest found = .waits value others after) :
    known value ∧ ∀ source ∈ others, known source := by
  induction rest generalizing found with
  | nil => cases hg
  | cons source rest ih =>
    obtain ⟨hsource, hrest⟩ := List.forall_mem_cons.mp hrest
    rw [gather] at hg
    split at hg
    · exact ih hrest hg
    · next signature hsignature =>
      split at hg
      · exact ih hrest hg
      · split at hg
        · exact ih hrest hg
        · cases hg
          exact ⟨h.values source kind signature hsource hsignature, hrest⟩

variable {walk : ObjectWalk} (hwalk : walk.Among known)
include hwalk

theorem concurs_indexStage (kind : IndexKind) {next other : ObjectWalk → Step ObjectWalk Level}
    {rest : List TypeId} (hrest : ∀ source ∈ rest, known source) (found : Verdict)
    (hnext : ∀ upper,
      Concurs known (Among known) (next { walk with upper }) (other { walk with upper })) :
    Concurs known (Among known) (indexStage one.host () kind next walk rest found)
      (indexStage two.host () kind other walk rest found) := by
  unfold indexStage
  rw [gather_concurs h hrest]
  cases hg : gather one.host () kind walk.upper rest found with
  | all found => exact concurs_unlessMet (hnext _)
  | waits value others found =>
    obtain ⟨hvalue, hothers⟩ := known_of_gather h hrest hg
    exact .await hvalue ⟨hwalk.id, hwalk.sources, hothers⟩

theorem concurs_numberStage {rest : List TypeId} (hrest : ∀ source ∈ rest, known source)
    (found : Verdict) :
    Concurs known (Among known) (numberStage one.host () walk rest found)
      (numberStage two.host () walk rest found) :=
  concurs_indexStage h hwalk .number hrest found fun _ => .done _

theorem concurs_stringStage {rest : List TypeId} (hrest : ∀ source ∈ rest, known source)
    (found : Verdict) :
    Concurs known (Among known) (stringStage one.host () walk rest found)
      (stringStage two.host () walk rest found) := by
  apply concurs_indexStage h hwalk .string hrest found
  intro upper
  exact concurs_numberStage h (hwalk.bounds _ _) hwalk.sources .unknown

theorem concurs_argumentStage {rest : List TypeId} (hrest : ∀ id ∈ rest, known id)
    (found : Verdict) :
    Concurs known (Among known) (argumentStage one.host () walk rest found)
      (argumentStage two.host () walk rest found) := by
  cases rest with
  | cons child rest =>
    obtain ⟨hchild, hrest⟩ := List.forall_mem_cons.mp hrest
    exact .await hchild ⟨hwalk.id, hwalk.sources, hrest⟩
  | nil =>
    rw [argumentStage_nil, argumentStage_nil]
    apply concurs_unlessMet
    exact concurs_stringStage h (hwalk.bounds _ _) hwalk.sources .unknown

theorem concurs_afterProperties :
    Concurs known (Among known) (afterProperties one.host () walk)
      (afterProperties two.host () walk) := by
  have hreference : two.host.isReference () walk.id = one.host.isReference () walk.id :=
    h.isReference walk.id hwalk.id
  have harguments : two.host.typeArguments () walk.id = one.host.typeArguments () walk.id :=
    h.typeArguments walk.id hwalk.id
  unfold afterProperties
  rw [hreference, harguments]
  split
  · exact concurs_argumentStage h hwalk (h.arguments walk.id hwalk.id) _
  · exact concurs_stringStage h hwalk hwalk.sources .unknown

theorem concurs_propertyStage {rest : List TypeId} (hrest : ∀ id ∈ rest, known id) :
    Concurs known (Among known) (propertyStage one.host () walk rest)
      (propertyStage two.host () walk rest) := by
  cases rest with
  | nil => exact concurs_afterProperties h hwalk
  | cons child rest =>
    obtain ⟨hchild, hrest⟩ := List.forall_mem_cons.mp hrest
    exact .await hchild ⟨hwalk.id, hwalk.sources, hrest⟩

theorem concurs_resume (answer : Option Verdict) :
    Concurs known (Among known) (walk.resume one.host () answer) (walk.resume two.host () answer) := by
  have hstage := hwalk.stage
  cases hs : walk.stage with
  | scan properties =>
    rw [hs] at hstage
    by_cases hne : properties = []
    · subst hne
      rw [resume_scan_nil _ _ hs, resume_scan_nil _ _ hs]
      exact concurs_afterProperties h hwalk
    · rw [resume_scan _ _ hs hne, resume_scan _ _ hs hne]
      cases scanBound walk.isTuple properties walk.upper with
      | none => exact .done _
      | some upper => exact concurs_propertyStage h (hwalk.bounds _ _) hstage
  | properties rest =>
    rw [hs] at hstage
    cases answer with
    | none =>
      rw [resume_properties_none _ _ hs, resume_properties_none _ _ hs]
      exact concurs_propertyStage h hwalk hstage
    | some verdict =>
      rw [resume_properties_some _ _ hs, resume_properties_some _ _ hs]
      apply concurs_unlessMet
      exact concurs_propertyStage h (hwalk.bounds _ _) hstage
  | arguments rest found =>
    rw [hs] at hstage
    rw [resume_arguments _ _ hs, resume_arguments _ _ hs]
    exact concurs_argumentStage h hwalk hstage _
  | indexes kind rest found =>
    rw [hs] at hstage
    cases kind with
    | string =>
      rw [resume_strings _ _ hs, resume_strings _ _ hs]
      exact concurs_stringStage h hwalk hstage _
    | number =>
      rw [resume_numbers _ _ hs, resume_numbers _ _ hs]
      exact concurs_numberStage h hwalk hstage _

end Stages

end ObjectWalk

open Step (Concurs)

theorem ArrayWalk.concurs_elementStage (shallow : Level) {rest : List TypeId}
    (hrest : ∀ id ∈ rest, known id) (found : Verdict) :
    Concurs known (Among known) (elementStage shallow rest found)
      (elementStage shallow rest found) := by
  cases rest with
  | nil => exact .done _
  | cons child rest =>
    obtain ⟨hchild, hrest⟩ := List.forall_mem_cons.mp hrest
    exact .await hchild hrest

theorem ArrayWalk.concurs_resume (h : one.Concurs known two) {walk : ArrayWalk}
    (hwalk : walk.Among known) (answer : Option Verdict) :
    Concurs known (Among known) (walk.resume one.host () answer) (walk.resume two.host () answer) := by
  cases walk with
  | elements shallow rest found => exact concurs_elementStage shallow hwalk _
  | container object threshold =>
    have hobject := ObjectWalk.concurs_resume h hwalk answer
    have harguments : two.host.typeArguments () object.id = one.host.typeArguments () object.id :=
      h.typeArguments object.id hwalk.id
    simp only [resume]
    rw [hobject.same, harguments]
    cases hr : object.resume one.host () answer with
    | await child rest =>
      obtain ⟨hchild, hrest⟩ := hobject.among child rest hr
      exact .await hchild hrest
    | done shallow =>
      dsimp only
      split
      · exact .done _
      · exact concurs_elementStage shallow (h.arguments object.id hwalk.id) _

theorem Least.concurs_resume {walk : Least} (hwalk : ∀ ref ∈ walk.rest, known ref.id)
    (answer : Option Verdict) :
    Concurs known (fun walk => ∀ ref ∈ walk.rest, known ref.id) (walk.resume answer)
      (walk.resume answer) := by
  refine ⟨rfl, ?_⟩
  intro child rest hr
  have hmem : ∀ ref ∈ child :: rest.rest, ref ∈ walk.rest := (Task.least_resume_suffix hr).subset
  obtain ⟨hchild, hrest⟩ := List.forall_mem_cons.mp hmem
  exact ⟨hwalk child hchild, fun ref href => hwalk ref (hrest ref href)⟩

/-- Over graphs that concur on the types of a walk, the walk goes on in the same way. -/
theorem Task.concurs_resume (h : one.Concurs known two) {task : Task} (htask : task.Among known)
    (answer : Option Verdict) :
    Concurs known (Among known) (task.resume one.host () answer) (task.resume two.host () answer) := by
  cases task with
  | least walk => exact (Least.concurs_resume htask answer).map fun _ hwalk => hwalk
  | object walk => exact (ObjectWalk.concurs_resume h htask answer).map fun _ hwalk => hwalk
  | array walk => exact (ArrayWalk.concurs_resume h htask answer).map fun _ hwalk => hwalk

end Immutability
