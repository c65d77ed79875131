import Immutability.Proofs.CacheInvariants
import Immutability.Proofs.CacheMarks
import Immutability.Proofs.Termination

/-!
# When nothing is learned of a type

A classification answers "unknown" only if there was nothing to learn: every type that the root leads to
through members of unions and branches of conditionals alone is again a union, a conditional or an error.
One direction is plain, since such types have nothing but each other to report.

For the other one, an evaluation that ends in silence has heard nothing but silence from every child it
asked for, and so it never ended early. Whatever it left in the cache that was not there before is then a
type all of whose members or branches were asked for, and each of them is an error or has an entry too.
From an empty cache, the entries are closed under members and branches. Marks need no attention: a type
that was met under way has an entry like any other.
-/

set_option autoImplicit false

namespace Immutability

/-- Shapes that have nothing to say of their own. -/
def Shape.isMute : Shape → Bool
  | .error | .union _ | .conditional _ _ => true
  | _ => false

namespace TypeGraph

variable (graph : TypeGraph)

def alternatives (id : TypeId) : List TypeId :=
  match graph.shape id with
  | .union members => members
  | .conditional whenTrue whenFalse => [whenTrue.id, whenFalse.id]
  | _ => []

/-- A type is reached from another through members and branches alone. -/
def Alternates : TypeId → TypeId → Prop :=
  Relation.ReflTransGen fun parent child => child ∈ graph.alternatives parent

variable {graph} {root id : TypeId} {ref child : TypeRef} {threshold : Level}
  {cache middle final : Cache} {status : Status}

theorem mem_alternatives_of_mute (hmute : (graph.shape id).isMute = true)
    (hc : child ∈ graph.children id) : child.id ∈ graph.alternatives id := by
  unfold children at hc
  unfold alternatives
  cases hs : graph.shape id with
  | union members =>
    rw [hs] at hc
    exact (mem_bare.mp hc).2
  | conditional whenTrue whenFalse =>
    rw [hs] at hc
    rcases List.mem_pair.mp hc with rfl | rfl
    · exact List.mem_cons_self
    · exact List.mem_cons_of_mem _ List.mem_cons_self
  | error =>
    rw [hs] at hc
    cases hc
  | _ =>
    rw [hs] at hmute
    cases hmute

theorem exists_child_of_mem_alternatives {below : TypeId} (h : below ∈ graph.alternatives id) :
    ∃ child ∈ graph.children id, child.id = below := by
  unfold alternatives at h
  unfold children
  cases hs : graph.shape id with
  | union members =>
    rw [hs] at h
    exact ⟨{ id := below }, mem_bare.mpr ⟨rfl, h⟩, rfl⟩
  | conditional whenTrue whenFalse =>
    rw [hs] at h
    rcases List.mem_pair.mp h with rfl | rfl
    · exact ⟨whenTrue, List.mem_cons_self, rfl⟩
    · exact ⟨whenFalse, List.mem_cons_of_mem _ List.mem_cons_self, rfl⟩
  | _ =>
    rw [hs] at h
    cases h

theorem demand_nil (graph : TypeGraph) (ref : TypeRef) (threshold : Level) :
    graph.demand [] ref threshold =
      if graph.shape ref.id = .error then .nothing else .judged threshold none := rfl

theorem judged_of_demand_nil {judged : Level} {pending : Option PendingRule}
    (h : graph.demand [] ref threshold = .judged judged pending) :
    judged = threshold ∧ pending = none ∧ graph.shape ref.id ≠ .error := by
  rw [demand_nil] at h
  split at h
  · cases h
  · next hshape =>
    cases h
    exact ⟨rfl, rfl, hshape⟩

/-! ### Mute types report nothing -/

theorem structural_of_mute (hmute : (graph.shape id).isMute = true) :
    graph.structural (fun _ => .unknown) id = .unknown := by
  have hall : ∀ refs : List TypeRef, Verdict.meetAll (refs.map fun _ => .unknown) = .unknown := by
    intro refs
    induction refs with
    | nil => rfl
    | cons ref refs ih => exact ih
  unfold structural
  cases hs : graph.shape id with
  | error => rfl
  | union members => exact hall _
  | conditional whenTrue whenFalse => rfl
  | _ =>
    rw [hs] at hmute
    cases hmute

theorem eq_unknown_of_responds (hmute : (graph.shape id).isMute = true) {verdict : Verdict}
    (h : graph.Responds (fun _ reply => reply = .unknown) threshold id verdict) :
    verdict = .unknown := by
  have happrox : Approximates threshold verdict (graph.structural (fun _ => .unknown) id) := by
    apply Responds.approximates
    apply h.mono
    rintro child reply rfl
    exact .exact .unknown
  rw [structural_of_mute hmute] at happrox
  cases happrox
  rfl

/-- Where all types that the root leads to are mute, classifications file nothing but silence. -/
theorem keeps_silence (hmute : ∀ id, graph.Alternates root id → (graph.shape id).isMute = true) :
    graph.Keeps [] (fun _ way => ∀ id ∈ way, graph.Alternates root id)
      (fun _ entry => entry.value = .unknown) (fun _ _ _ reply => reply = .unknown) where
  marked _ := rfl
  entry _ hentry _ := ⟨.unknown, hentry, rfl⟩
  nothing _ _ _ := rfl
  forced _ hd := by
    obtain ⟨rule, hmem, _⟩ := mem_of_demand_forced hd
    cases hmem
  judged hway hd hresponds := by
    obtain ⟨rfl, rfl, _⟩ := judged_of_demand_nil hd
    have hid := hmute _ (hway _ List.mem_cons_self)
    exact congrArg Status.settled (eq_unknown_of_responds hid hresponds)
  child hway _ hasks _ := by
    intro other hmem
    have hid := hway _ List.mem_cons_self
    rcases List.mem_cons.mp hmem with rfl | hmem
    · exact hid.tail (mem_alternatives_of_mute (hmute _ hid) hasks.mem_children)
    · exact hway other hmem

/-! ### Silence comes from mute types only -/

def Met (graph : TypeGraph) (cache : Cache) (id : TypeId) : Prop :=
  (cache.get? (.identity (graph.identity id))).isSome = true

/-- A type with nothing more to ask about: an error, or one with an entry. -/
def Covered (graph : TypeGraph) (cache : Cache) (id : TypeId) : Prop :=
  graph.shape id = .error ∨ graph.Met cache id

/-- Every type met between two moments is mute, and its members or branches are covered. -/
structure Explored (graph : TypeGraph) (cache final : Cache) : Prop where
  keeps : ∀ {id}, graph.Met cache id → graph.Met final id
  expands : ∀ {id}, graph.Met final id → graph.Met cache id ∨
    ((graph.shape id).isMute = true ∧ ∀ child ∈ graph.children id, graph.Covered final child.id)

theorem Explored.refl (graph : TypeGraph) (cache : Cache) : graph.Explored cache cache :=
  ⟨fun h => h, Or.inl⟩

theorem Explored.covered (h : graph.Explored cache final) (hid : graph.Covered cache id) :
    graph.Covered final id :=
  hid.imp_right h.keeps

theorem Explored.trans (h : graph.Explored cache middle) (h' : graph.Explored middle final) :
    graph.Explored cache final where
  keeps hid := h'.keeps (h.keeps hid)
  expands hid := by
    rcases h'.expands hid with hid | hid
    · rcases h.expands hid with hid | ⟨hmute, hcovered⟩
      · exact Or.inl hid
      · exact Or.inr ⟨hmute, fun child hc => h'.covered (hcovered child hc)⟩
    · exact Or.inr hid

theorem met_file_iff (hgraph : graph.Unplaced) (hnode : ref.node = none) {entry : Entry} :
    graph.Met (graph.file ref entry cache) id ↔ id = ref.id ∨ graph.Met cache id := by
  unfold Met
  rw [hgraph.get?_file_identity hnode]
  split
  · next heq => simp [heq]
  · next hne => simp [hne]

/-- A walk that starts with a mark on its type and covers all that the type may ask for. -/
theorem Explored.finish (hgraph : graph.Unplaced) (hnode : ref.node = none) {entry : Entry}
    (hmute : (graph.shape ref.id).isMute = true)
    (h : graph.Explored (graph.file ref .inProgress cache) final)
    (hcovered : ∀ child ∈ graph.children ref.id, graph.Covered final child.id) :
    graph.Explored cache (graph.file ref entry final) := by
  have hlater : ∀ {id}, graph.Met final id → graph.Met (graph.file ref entry final) id :=
    fun hid => (met_file_iff hgraph hnode).mpr (Or.inr hid)
  have hself : graph.Met final ref.id := h.keeps ((met_file_iff hgraph hnode).mpr (Or.inl rfl))
  constructor
  · intro id hid
    exact hlater (h.keeps ((met_file_iff hgraph hnode).mpr (Or.inr hid)))
  · intro id hid
    have hfinal : graph.Met final id := by
      rcases (met_file_iff hgraph hnode).mp hid with rfl | hid
      · exact hself
      · exact hid
    rcases h.expands hfinal with hmarked | ⟨hm, hc⟩
    · rcases (met_file_iff hgraph hnode).mp hmarked with rfl | hbefore
      · exact Or.inr ⟨hmute, fun child hmem => (hcovered child hmem).imp_right hlater⟩
      · exact Or.inl hbefore
    · exact Or.inr ⟨hm, fun child hmem => (hc child hmem).imp_right hlater⟩

end TypeGraph

namespace Verdict

theorem eq_unknown_of_meet {a b : Verdict} (h : a.meet b = .unknown) : a = .unknown ∧ b = .unknown := by
  cases a with
  | unknown => exact ⟨rfl, h⟩
  | known level => cases b <;> cases h

end Verdict

namespace Least

variable {walk rest : Least} {answer : Option Verdict} {child : TypeRef}

theorem resume_eq_await (h : walk.resume answer = .await child rest) :
    walk.rest = child :: rest.rest ∧ rest.found = walk.found.meet (answer.getD .unknown) := by
  have hnext : ∀ walk : Least, walk.next = .await child rest →
      walk.rest = child :: rest.rest ∧ rest.found = walk.found := by
    rintro ⟨_ | ⟨first, list⟩, found⟩ h
    · cases h
    · cases h
      exact ⟨rfl, rfl⟩
  cases answer with
  | none =>
    obtain ⟨hrest, hfound⟩ := hnext walk h
    exact ⟨hrest, hfound.trans (Verdict.meet_unknown _).symm⟩
  | some verdict =>
    unfold resume at h
    dsimp only at h
    split at h
    · cases h
    · exact hnext _ h

theorem resume_eq_done_unknown (h : walk.resume answer = .done .unknown) :
    walk.rest = [] ∧ walk.found.meet (answer.getD .unknown) = .unknown := by
  have hnext : ∀ walk : Least, walk.next = .done .unknown → walk.rest = [] ∧ walk.found = .unknown := by
    rintro ⟨_ | ⟨first, list⟩, found⟩ h
    · cases h
      exact ⟨rfl, rfl⟩
    · cases h
  cases answer with
  | none =>
    obtain ⟨hrest, hfound⟩ := hnext walk h
    exact ⟨hrest, (Verdict.meet_unknown _).trans hfound⟩
  | some verdict =>
    unfold resume at h
    dsimp only at h
    split at h
    · next hmutable =>
      rw [hmutable] at h
      cases h
    · exact hnext _ h

end Least

namespace TypeGraph

variable {graph : TypeGraph} {root id : TypeId} {ref : TypeRef} {threshold : Level}
  {cache final : Cache} {status : Status}

/-- What is known of a walk that ended in silence: it looked for the least of some types, had heard
nothing so far and covered all that remained. -/
structure Unheard (graph : TypeGraph) (task : Task) (answer : Option Verdict) (cache final : Cache) :
    Prop where
  least : ∃ walk, task = .least walk ∧ walk.found.meet (answer.getD .unknown) = .unknown
  explored : graph.Explored cache final
  covered : ∀ child ∈ task.remaining graph, graph.Covered final child.id

theorem unheard_of_done {task : Task} {answer : Option Verdict}
    (h : task.resume graph.host () answer = .done .unknown) :
    graph.Unheard task answer cache cache := by
  cases task with
  | least walk =>
    rw [Task.resume] at h
    cases hr : walk.resume answer with
    | await child rest =>
      rw [hr] at h
      cases h
    | done verdict =>
      rw [hr] at h
      cases h
      obtain ⟨hrest, hfound⟩ := Least.resume_eq_done_unknown hr
      refine ⟨⟨walk, rfl, hfound⟩, .refl graph cache, ?_⟩
      intro child hc
      rw [Task.remaining, hrest] at hc
      cases hc
  | object walk =>
    rw [Task.resume] at h
    cases hr : walk.resume graph.host () answer <;> rw [hr] at h <;> cases h
  | array walk =>
    rw [Task.resume] at h
    cases hr : walk.resume graph.host () answer <;> rw [hr] at h <;> cases h

/-- A walk that has to ask and ends in silence gets silence for a reply. -/
theorem unheard_of_await {task rest : Task} {answer : Option Verdict} {child : TypeRef}
    {middle : Cache} (h : task.resume graph.host () answer = .await child rest)
    (hchild : status.settle = .unknown → graph.Explored cache middle ∧ graph.Covered middle child.id)
    (hrest : graph.Unheard rest (some status.settle) middle final) :
    graph.Unheard task answer cache final := by
  obtain ⟨later, rfl, hheard⟩ := hrest.least
  obtain ⟨hfound, hreply⟩ := Verdict.eq_unknown_of_meet hheard
  obtain ⟨hexplored, hcovered⟩ := hchild hreply
  cases task with
  | object walk =>
    rw [Task.resume] at h
    cases hr : walk.resume graph.host () answer <;> rw [hr] at h <;> cases h
  | array walk =>
    rw [Task.resume] at h
    cases hr : walk.resume graph.host () answer <;> rw [hr] at h <;> cases h
  | least walk =>
    rw [Task.resume] at h
    cases hr : walk.resume answer with
    | done verdict =>
      rw [hr] at h
      cases h
    | await asked next =>
      rw [hr] at h
      cases h
      obtain ⟨hlist, hmeet⟩ := Least.resume_eq_await hr
      refine ⟨⟨walk, rfl, hmeet ▸ hfound⟩, hexplored.trans hrest.explored, ?_⟩
      intro other hother
      rw [Task.remaining, hlist] at hother
      rcases List.mem_cons.mp hother with rfl | hother
      · exact hrest.explored.covered hcovered
      · exact hrest.covered other hother

/-- A walk over a type that ended in silence covered all children of the type. -/
theorem Unheard.mute {task : Task} (h : graph.Unheard task none cache final)
    (ha : graph.approach id (graph.shape id) threshold = .walk task) :
    (graph.shape id).isMute = true ∧ ∀ child ∈ graph.children id, graph.Covered final child.id := by
  have hcovered := h.covered
  obtain ⟨walk, rfl, _⟩ := h.least
  unfold children
  cases walks_of_approach ha with
  | union hs =>
    rw [hs]
    exact ⟨rfl, hcovered⟩
  | conditional hs =>
    rw [hs]
    exact ⟨rfl, hcovered⟩

theorem leaf_ne_unknown {verdict : Verdict} (hshape : graph.shape id ≠ .error)
    (ha : graph.approach id (graph.shape id) threshold = .leaf verdict) : verdict ≠ .unknown := by
  rw [eq_structural_of_leaf (fun _ => .known .mutable) ha]
  cases hs : graph.shape id with
  | error => exact absurd hs hshape
  | union members =>
    rw [hs] at ha
    cases ha
  | conditional whenTrue whenFalse =>
    rw [hs] at ha
    cases ha
  | intersection members =>
    rw [hs] at ha
    cases ha
  | primitive => simp [structural, hs]
  | object kind =>
    unfold structural
    rw [hs]
    dsimp only
    split
    · exact nofun
    · split <;> exact nofun

/-- An evaluation that ends in silence meets mute types only, and covers what they lead to. -/
theorem explored_of_evaluates (hgraph : graph.Unplaced) (hnode : ref.node = none)
    (hstatus : status.settle = .unknown)
    (h : graph.Evaluates [] ref threshold cache status final) :
    graph.Explored cache final ∧ graph.Covered final ref.id := by
  let types (ref : TypeRef) (_ : Level) (cache : Cache) (status : Status) (final : Cache) :=
    ref.node = none → status.settle = .unknown →
      graph.Explored cache final ∧ graph.Covered final ref.id
  let walks (_ : Level) (task : Task) (answer : Option Verdict) (cache : Cache) (verdict : Verdict)
      (final : Cache) :=
    (∀ child ∈ task.remaining graph, child.node = none) → verdict = .unknown →
      graph.Unheard task answer cache final
  refine (evaluates_induction types walks ?ready ?frame ?done ?await).1 h hnode hstatus
  case ready =>
    intro ref threshold cache status final he hnode hstatus
    cases enters_of_enter he with
    | hit hl =>
      obtain ⟨entry, hget, _⟩ := Cache.lookup_eq_hit_iff.mp hl
      rw [key_of_node_eq_none hnode] at hget
      refine ⟨.refl graph cache, Or.inr ?_⟩
      rw [Met, hget]
      rfl
    | nothing _ hd =>
      refine ⟨.refl graph cache, Or.inl ?_⟩
      by_contra hshape
      rw [demand_nil, if_neg hshape] at hd
      cases hd
    | forced _ hd =>
      obtain ⟨rule, hmem, _⟩ := mem_of_demand_forced hd
      cases hmem
    | leaf _ hd ha =>
      obtain ⟨rfl, rfl, hshape⟩ := judged_of_demand_nil hd
      exact absurd hstatus (leaf_ne_unknown hshape ha)
  case frame =>
    intro ref threshold cache middle final verdict frame he hwalk hnode hstatus
    cases enters_of_enter he with
    | walk _ hd ha =>
      obtain ⟨rfl, rfl, hshape⟩ := judged_of_demand_nil hd
      have hheard := hwalk (fun child hc => hgraph.node_eq_none (mem_children_of_walk ha hc)) hstatus
      obtain ⟨hmute, hcovered⟩ := hheard.mute ha
      refine ⟨hheard.explored.finish hgraph hnode hmute hcovered, Or.inr ?_⟩
      exact (met_file_iff hgraph hnode).mpr (Or.inl rfl)
  case done =>
    intro threshold task answer cache verdict hr _ hverdict
    rw [hverdict] at hr
    exact unheard_of_done hr
  case await =>
    intro threshold task answer cache middle final child rest status verdict hr hchild hrest hnodes
      hverdict
    have hsuffix := (Task.resume_suffix hr).subset
    refine unheard_of_await hr (hchild (hnodes child (hsuffix List.mem_cons_self))) ?_
    exact hrest (fun other hmem => hnodes other (hsuffix (List.mem_cons_of_mem _ hmem))) hverdict

/-- From an empty cache, silence means that the root leads to mute types only. -/
theorem mute_of_evaluates (hgraph : graph.Unplaced) (hstatus : status.settle = .unknown)
    (h : graph.Evaluates [] { id := root } threshold {} status final)
    (hid : graph.Alternates root id) : (graph.shape id).isMute = true := by
  obtain ⟨hexplored, hroot⟩ := explored_of_evaluates hgraph rfl hstatus h
  have hmute : ∀ {id}, graph.Covered final id → (graph.shape id).isMute = true ∧
      ∀ child ∈ graph.children id, graph.Covered final child.id := by
    rintro id (herror | hmet)
    · unfold children
      rw [herror]
      exact ⟨rfl, fun child hc => nomatch hc⟩
    · rcases hexplored.expands hmet with hempty | hexpanded
      · cases hempty
      · exact hexpanded
  have hcovered : graph.Covered final id := by
    induction hid with
    | refl => exact hroot
    | tail _ hnext ih =>
      obtain ⟨child, hc, rfl⟩ := exists_child_of_mem_alternatives hnext
      exact (hmute ih).2 child hc
  exact (hmute hcovered).1

/-- The answer to a request on an empty cache is "unknown" just if the root leads, through members of
unions and branches of conditionals, to unions, conditionals and errors alone. Otherwise it is a level;
so it is for every root that is none of the three. -/
theorem run_unknown_iff (graph : TypeGraph) (hgraph : graph.Unplaced) (root : TypeId)
    (hfinite : {id | ∃ ref, graph.Reaches { id := root } ref ∧ ref.id = id}.Finite)
    (threshold : Level) (journal : Journal) :
    ∃ steps answer,
      (∀ more, steps ≤ more → Machine.run graph.host [] more { id := root } threshold
        { state := (), journal } = .ok answer) ∧
      (answer.status = .unknown ↔ ∀ id, graph.Alternates root id → (graph.shape id).isMute = true) ∧
      (¬ (∀ id, graph.Alternates root id → (graph.shape id).isMute = true) →
        ∃ level, answer.status = .known level) ∧
      ((graph.shape root).isMute = false → ∃ level, answer.status = .known level) := by
  have hidentities : {identity | ∃ ref, graph.Reaches { id := root } ref ∧
      graph.identity ref.id = identity}.Finite := by
    apply (hfinite.image graph.identity).subset
    rintro identity ⟨ref, href, rfl⟩
    exact ⟨ref.id, ⟨ref, href, rfl⟩, rfl⟩
  have hnodes : {node | ∃ ref, graph.Reaches { id := root } ref ∧ ref.node = some node}.Finite := by
    apply Set.finite_empty.subset
    rintro node ⟨ref, href, hnode⟩
    rw [hgraph.node_eq_none_of_reaches rfl href] at hnode
    cases hnode
  obtain ⟨steps, answer, hrun⟩ := (run_ends graph [] { id := root } threshold
    { state := (), journal } hidentities hnodes).resolve_right fun ⟨hmarked, _⟩ =>
      not_marked_empty _ hmarked
  have hend := hrun steps (Nat.le_refl steps)
  have hiff : answer.status = .unknown ↔
      ∀ id, graph.Alternates root id → (graph.shape id).isMute = true := by
    constructor
    · intro hstatus id hid
      exact mute_of_evaluates hgraph (by rw [hstatus]; rfl) (evaluates_of_run hend) hid
    · intro hmute
      have hway : ∀ id ∈ [root], graph.Alternates root id := by
        intro id hmem
        rw [List.mem_singleton.mp hmem]
        exact .refl
      obtain ⟨⟨found, hstatus, rfl⟩, _⟩ :=
        holding_of_run hgraph (keeps_silence hmute) hway (holding_empty graph _) hend
      exact hstatus
  have hknown : answer.status ≠ .unknown → ∃ level, answer.status = .known level := by
    intro hne
    have hsettled := (settled_of_run (List.forall_mem_nil _) hend).1
    match hs : answer.status with
    | .calculating => exact absurd hs hsettled
    | .unknown => exact absurd hs hne
    | .known level => exact ⟨level, rfl⟩
  refine ⟨steps, answer, hrun, hiff, fun h => hknown (mt hiff.mp h), fun hroot => hknown ?_⟩
  intro hstatus
  rw [hiff.mp hstatus root .refl] at hroot
  cases hroot

/-- Two unions that lead to each other, one of them to an error and a conditional as well; and a record
and a union that hold each other. -/
def echo : TypeGraph where
  shape id :=
    match id.index with
    | 1 => .union [⟨2⟩, ⟨4⟩]
    | 2 => .union [⟨3⟩, ⟨1⟩]
    | 3 => .conditional { id := ⟨3⟩ } { id := ⟨1⟩ }
    | 4 => .error
    | 5 => .object .plain
    | 6 => .union [⟨5⟩, ⟨6⟩]
    | _ => .primitive
  properties id := if id.index = 5 then [.readonly "inner" ⟨6⟩] else []
  callable _ := false
  isReference _ := false
  typeArguments _ := []
  indexSignature _ _ := none
  identity id := ⟨id.index⟩
  typeName _ := { evaluated := "Echo" }
  declarationFiles _ := []
  program := { currentDirectory := "/" }

theorem echo_unplaced : echo.Unplaced where
  identity_injective := by
    intro ⟨one⟩ ⟨two⟩ h
    cases h
    rfl
  branches := by
    intro id whenTrue whenFalse h
    simp only [echo] at h
    split at h <;> cases h
    exact ⟨rfl, rfl⟩

theorem echo_finite {root : TypeId} (hroot : root.index < 7) :
    {id | ∃ ref, echo.Reaches { id := root } ref ∧ ref.id = id}.Finite := by
  have hchildren : ∀ index < 7, ∀ child ∈ echo.children ⟨index⟩, child.id.index < 7 := by
    decide
  apply ((List.range 7).map Handle.mk).finite_toSet.subset
  rintro id ⟨ref, href, rfl⟩
  have hless : ref.id.index < 7 := by
    induction href with
    | refl => exact hroot
    | tail _ hchild ih => exact hchildren _ ih _ hchild
  exact List.mem_map.mpr ⟨ref.id.index, List.mem_range.mpr hless, rfl⟩

/-- Nothing is learned of the unions that lead to each other, and the record is found immutable. -/
theorem run_echo_unknown_iff :
    (∃ steps answer, Machine.run echo.host [] steps { id := ⟨1⟩ } .readonlyDeep { state := () } =
        .ok answer ∧ answer.status = .unknown) ∧
    (∀ id, echo.Alternates ⟨1⟩ id → (echo.shape id).isMute = true) ∧
    ∃ steps answer level, Machine.run echo.host [] steps { id := ⟨6⟩ } .immutable { state := () } =
      .ok answer ∧ answer.status = .known level := by
  have hclosed : ∀ id : TypeId, id.index ∈ [1, 2, 3, 4] → (echo.shape id).isMute = true ∧
      ∀ below ∈ echo.alternatives id, below.index ∈ [1, 2, 3, 4] := by
    rintro ⟨index⟩ hmem
    simp only [List.mem_cons, List.not_mem_nil, or_false] at hmem
    rcases hmem with rfl | rfl | rfl | rfl <;> decide
  have hmute : ∀ id, echo.Alternates ⟨1⟩ id → (echo.shape id).isMute = true := by
    intro id hid
    have hmem : id.index ∈ [1, 2, 3, 4] := by
      induction hid with
      | refl => decide
      | tail _ hnext ih => exact (hclosed _ ih).2 _ hnext
    exact (hclosed id hmem).1
  obtain ⟨steps, answer, hrun, hiff, _⟩ := run_unknown_iff echo echo_unplaced ⟨1⟩
    (echo_finite (by decide)) .readonlyDeep {}
  refine ⟨⟨steps, answer, hrun steps (Nat.le_refl steps), hiff.mpr hmute⟩, hmute, ?_⟩
  obtain ⟨steps, answer, hrun, _, hlevel, _⟩ := run_unknown_iff echo echo_unplaced ⟨6⟩
    (echo_finite (by decide)) .immutable {}
  have hspeaks : echo.Alternates ⟨6⟩ ⟨5⟩ := .single (by decide)
  obtain ⟨level, hstatus⟩ := hlevel fun hall => absurd (hall _ hspeaks) (by decide)
  exact ⟨steps, answer, level, hrun steps (Nat.le_refl steps), hstatus⟩

end TypeGraph

end Immutability
