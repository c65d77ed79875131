import Immutability.Proofs.Acyclic

/-!
# What classifications keep in a cache

A classification goes down from type to type. The types on its way are marked, and all other entries it
finds or leaves were concluded before. `Holding` says of a cache that just the types under way are marked
and that every other entry is of some kind. `Keeps` lists what has to hold of one type at a time for that
kind to be kept: a type is concluded with such an entry if the replies to its walk are admissible, and such
an entry gives admissible replies. From that `holding_of_evaluates` and `holding_of_run` follow for whole
classifications, on graphs with cycles as well.
-/

set_option autoImplicit false

namespace Immutability

/-- A walk may ask for a child from a step on, if the replies before are admissible. -/
inductive Step.Asks {ω α : Type} (resume : ω → Option Verdict → Step ω α)
    (replies : TypeRef → Verdict → Prop) : Step ω α → TypeRef → Prop where
  | next {child : TypeRef} {walk : ω} : Asks resume replies (.await child walk) child
  | later {child other : TypeRef} {walk : ω} {reply : Verdict} :
      replies child reply → Asks resume replies (resume walk (some reply)) other →
      Asks resume replies (.await child walk) other

theorem Task.mem_remaining_of_asks {graph : TypeGraph} {replies : TypeRef → Verdict → Prop}
    {task : Task} {answer : Option Verdict} {child : TypeRef}
    (h : Step.Asks (Task.resume graph.host ()) replies (task.resume graph.host () answer) child) :
    child ∈ task.remaining graph := by
  generalize hstep : task.resume graph.host () answer = step at h
  induction h generalizing task answer with
  | next => exact (Task.resume_suffix hstep).subset List.mem_cons_self
  | later _ _ ih => exact (Task.resume_suffix hstep).subset (List.mem_cons_of_mem _ (ih rfl))

namespace TypeGraph

/-- What the structure of a type answers under a threshold on admissible replies of its children. -/
inductive Responds (graph : TypeGraph) (replies : TypeRef → Verdict → Prop) (threshold : Level)
    (id : TypeId) : Verdict → Prop where
  | leaf {verdict : Verdict} :
      graph.approach id (graph.shape id) threshold = .leaf verdict →
      Responds graph replies threshold id verdict
  | walk {task : Task} {verdict : Verdict} :
      graph.approach id (graph.shape id) threshold = .walk task →
      Step.Yields (Task.resume graph.host ()) replies (task.resume graph.host () none) verdict →
      Responds graph replies threshold id verdict

/-- A child that the walk over a type may ask for under a threshold, on admissible replies. -/
def AsksFor (graph : TypeGraph) (replies : TypeRef → Verdict → Prop) (threshold : Level) (id : TypeId)
    (child : TypeRef) : Prop :=
  ∃ task, graph.approach id (graph.shape id) threshold = .walk task ∧
    Step.Asks (Task.resume graph.host ()) replies (task.resume graph.host () none) child

variable {graph : TypeGraph} {rules : List Rule} {replies : TypeRef → Verdict → Prop}
  {value : TypeRef → Verdict} {id : TypeId} {ref : TypeRef} {threshold : Level} {verdict : Verdict}

theorem Responds.mono {others : TypeRef → Verdict → Prop}
    (hreplies : ∀ child reply, replies child reply → others child reply)
    (h : graph.Responds replies threshold id verdict) :
    graph.Responds others threshold id verdict := by
  cases h with
  | leaf ha => exact .leaf ha
  | walk ha hyields => exact .walk ha (hyields.mono hreplies)

/-- Every type responds if every child can be answered. -/
theorem exists_responds (graph : TypeGraph) (hreplies : ∀ child, ∃ reply, replies child reply)
    (threshold : Level) (id : TypeId) : ∃ verdict, graph.Responds replies threshold id verdict := by
  cases ha : graph.approach id (graph.shape id) threshold with
  | leaf verdict => exact ⟨verdict, .leaf ha⟩
  | walk task =>
    obtain ⟨verdict, hyields⟩ := task.exists_yields hreplies none
    exact ⟨verdict, .walk ha hyields⟩

theorem Responds.approximates
    (h : graph.Responds (RepliesUpTo value threshold) threshold id verdict) :
    Approximates threshold verdict (graph.structural value id) := by
  cases h with
  | leaf ha =>
    rw [← eq_structural_of_leaf value ha]
    exact .exact verdict
  | walk ha hyields => exact approximates_of_walk ha hyields

theorem AsksFor.mem_children {child : TypeRef} (h : graph.AsksFor replies threshold id child) :
    child ∈ graph.children id := by
  obtain ⟨task, ha, hasks⟩ := h
  exact mem_children_of_walk ha (Task.mem_remaining_of_asks hasks)

/-! ### Caches -/

variable {kept : TypeId → Entry → Prop} {underWay : List TypeId} {cache final : Cache} {entry : Entry}

/-- A cache in which just the types under way are marked and every other entry is of a kind. -/
structure Holding (graph : TypeGraph) (kept : TypeId → Entry → Prop) (underWay : List TypeId)
    (cache : Cache) : Prop where
  marked : ∀ id ∈ underWay, cache.get? (.identity (graph.identity id)) = some Entry.inProgress
  settled : ∀ id entry, id ∉ underWay →
    cache.get? (.identity (graph.identity id)) = some entry → kept id entry

theorem holding_empty (graph : TypeGraph) (kept : TypeId → Entry → Prop) :
    graph.Holding kept [] {} where
  marked _ hmem := absurd hmem List.not_mem_nil
  settled _ _ _ hget := nomatch hget

theorem Holding.mark (hgraph : graph.Unplaced) (h : graph.Holding kept underWay cache) (id : TypeId) :
    graph.Holding kept (id :: underWay) (graph.file { id } .inProgress cache) where
  marked other hmem := by
    rw [hgraph.get?_file_identity rfl]
    split
    · rfl
    · next hne => exact h.marked other ((List.mem_cons.mp hmem).resolve_left hne)
  settled other entry hfree hget := by
    obtain ⟨hne, hfree⟩ := List.ne_and_not_mem_of_not_mem_cons hfree
    rw [hgraph.get?_file_identity rfl, if_neg hne] at hget
    exact h.settled other entry hfree hget

/-- Filing an entry for a type that is not under way: what the cache held for it before is of no
account. -/
theorem holding_file (hgraph : graph.Unplaced) (hfree : id ∉ underWay) (hentry : kept id entry)
    (hmarked : ∀ other ∈ underWay,
      cache.get? (.identity (graph.identity other)) = some Entry.inProgress)
    (hsettled : ∀ other entry, other ∉ id :: underWay →
      cache.get? (.identity (graph.identity other)) = some entry → kept other entry) :
    graph.Holding kept underWay (graph.file { id } entry cache) where
  marked other hmem := by
    have hne : other ≠ id := fun heq => hfree (heq ▸ hmem)
    rw [hgraph.get?_file_identity rfl, if_neg hne]
    exact hmarked other hmem
  settled other found hother hget := by
    rw [hgraph.get?_file_identity rfl] at hget
    split at hget
    · next heq =>
      cases hget
      rw [heq]
      exact hentry
    · next hne => exact hsettled other found (List.not_mem_cons_of_ne_of_not_mem hne hother) hget

theorem Holding.file (hgraph : graph.Unplaced) (h : graph.Holding kept underWay cache)
    (hfree : id ∉ underWay) (hentry : kept id entry) :
    graph.Holding kept underWay (graph.file { id } entry cache) :=
  holding_file hgraph hfree hentry h.marked
    fun other entry hother => h.settled other entry (List.not_mem_of_not_mem_cons hother)

/-- The entry of a type that is done takes the place of its mark. -/
theorem Holding.finish (hgraph : graph.Unplaced) (h : graph.Holding kept (id :: underWay) cache)
    (hfree : id ∉ underWay) (hentry : kept id entry) :
    graph.Holding kept underWay (graph.file { id } entry cache) :=
  holding_file hgraph hfree hentry
    (fun other hmem => h.marked other (List.mem_cons_of_mem id hmem)) h.settled

theorem Holding.free_of_miss (h : graph.Holding kept underWay cache)
    (hmiss : ∀ status, cache.lookup (graph.key { id }) (.known threshold) ≠ .hit status) :
    id ∉ underWay := by
  intro hmem
  refine hmiss .calculating (Cache.lookup_eq_hit_iff.mpr ⟨.inProgress, ?_, rfl, rfl⟩)
  exact h.marked id hmem

/-! ### Evaluations -/

/-- What has to hold of one type at a time for classifications to keep entries of a kind. A way is the
list of the types under way, the last one first, with the threshold the last one is asked under; which
replies are admissible may depend on the way. -/
structure Keeps (graph : TypeGraph) (rules : List Rule) (way : Level → List TypeId → Prop)
    (kept : TypeId → Entry → Prop)
    (replies : List TypeId → Level → TypeRef → Verdict → Prop) : Prop where
  /-- A type that is met under way contributes nothing. -/
  marked : ∀ {id underWay threshold}, id ∈ underWay → replies underWay threshold { id } .unknown
  /-- An entry is no mark, and what it answers is admissible. -/
  entry : ∀ {id underWay threshold entry}, id ∉ underWay → kept id entry →
    entry.satisfies (.known threshold) = true →
    ∃ found, entry.value = .settled found ∧ replies underWay threshold { id } found
  nothing : ∀ {id underWay threshold}, id ∉ underWay → way threshold (id :: underWay) →
    graph.demand rules { id } threshold = .nothing → replies underWay threshold { id } .unknown
  forced : ∀ {id underWay threshold target}, way threshold (id :: underWay) →
    graph.demand rules { id } threshold = .forced target → kept id { value := target }
  judged : ∀ {id underWay threshold judged pending verdict}, way threshold (id :: underWay) →
    graph.demand rules { id } threshold = .judged judged pending →
    graph.Responds (replies (id :: underWay) judged) judged id verdict →
    kept id (conclusion judged pending verdict)
  child : ∀ {id underWay threshold judged pending child}, way threshold (id :: underWay) →
    graph.demand rules { id } threshold = .judged judged pending →
    graph.AsksFor (replies (id :: underWay) judged) judged id child → child.id ∉ id :: underWay →
    way judged (child.id :: id :: underWay)

/-- What a type reports to the one above it. -/
structure Reports (replies : List TypeId → Level → TypeRef → Verdict → Prop) (underWay : List TypeId)
    (threshold : Level) (ref : TypeRef) (status : Status) : Prop where
  admissible : replies underWay threshold ref status.settle
  settled : ref.id ∉ underWay → ∃ found, status = .settled found

variable {way : Level → List TypeId → Prop}
  {answers : List TypeId → Level → TypeRef → Verdict → Prop} {status : Status}

theorem Keeps.reports_entry (hkeeps : graph.Keeps rules way kept answers) (hfree : id ∉ underWay)
    (hentry : kept id entry) (hs : entry.satisfies (.known threshold) = true) :
    Reports answers underWay threshold { id } entry.value := by
  obtain ⟨found, hvalue, hfound⟩ := hkeeps.entry hfree hentry hs
  rw [hvalue]
  exact ⟨hfound, fun _ => ⟨found, rfl⟩⟩

theorem Keeps.reports_hit (hkeeps : graph.Keeps rules way kept answers)
    (h : graph.Holding kept underWay cache)
    (hl : cache.lookup (graph.key { id }) (.known threshold) = .hit status) :
    Reports answers underWay threshold { id } status := by
  obtain ⟨entry, hget, hs, rfl⟩ := Cache.lookup_eq_hit_iff.mp hl
  rw [key_of_node_eq_none rfl] at hget
  by_cases hmem : id ∈ underWay
  · rw [h.marked id hmem] at hget
    cases hget
    exact ⟨hkeeps.marked hmem, fun hfree => absurd hmem hfree⟩
  · exact hkeeps.reports_entry hmem (h.settled id entry hmem hget) hs

theorem holding_of_enter_ready (hgraph : graph.Unplaced)
    (hkeeps : graph.Keeps rules way kept answers)
    (hway : id ∉ underWay → way threshold (id :: underWay))
    (h : graph.Holding kept underWay cache)
    (he : graph.enter rules { id } threshold cache = (.ready status, final)) :
    Reports answers underWay threshold { id } status ∧ graph.Holding kept underWay final := by
  cases enters_of_enter he with
  | hit hl => exact ⟨hkeeps.reports_hit h hl, h⟩
  | nothing hmiss hd =>
    have hfree := h.free_of_miss hmiss
    exact ⟨⟨hkeeps.nothing hfree (hway hfree) hd, fun _ => ⟨.unknown, rfl⟩⟩, h⟩
  | forced hmiss hd =>
    have hfree := h.free_of_miss hmiss
    have hentry := hkeeps.forced (hway hfree) hd
    exact ⟨hkeeps.reports_entry hfree hentry (Entry.satisfies_forced _ _),
      h.file hgraph hfree hentry⟩
  | leaf hmiss hd ha =>
    have hfree := h.free_of_miss hmiss
    have hentry := hkeeps.judged (hway hfree) hd (.leaf ha)
    exact ⟨hkeeps.reports_entry hfree hentry (satisfies_conclusion (threshold_le_of_demand hd) _ _),
      (h.mark hgraph id).finish hgraph hfree hentry⟩

/-- An evaluation keeps the entries of a cache of their kind and reports to the type above it. -/
theorem holding_of_evaluates (hgraph : graph.Unplaced) (hkeeps : graph.Keeps rules way kept answers)
    (hnode : ref.node = none) (hway : ref.id ∉ underWay → way threshold (ref.id :: underWay))
    (hholding : graph.Holding kept underWay cache)
    (h : graph.Evaluates rules ref threshold cache status final) :
    Reports answers underWay threshold ref status ∧ graph.Holding kept underWay final := by
  -- The way varies: a walk is followed with its own type at the end of it. What a walk may still ask for
  -- is known from the step it is at, and each reply narrows it.
  let types (ref : TypeRef) (threshold : Level) (cache : Cache) (status : Status) (final : Cache) :=
    ∀ underWay, ref.node = none → (ref.id ∉ underWay → way threshold (ref.id :: underWay)) →
      graph.Holding kept underWay cache →
      Reports answers underWay threshold ref status ∧ graph.Holding kept underWay final
  let walks (threshold : Level) (task : Task) (answer : Option Verdict) (cache : Cache)
      (verdict : Verdict) (final : Cache) :=
    ∀ underWay, (∀ child, Step.Asks (Task.resume graph.host ()) (answers underWay threshold)
        (task.resume graph.host () answer) child →
        child.node = none ∧ (child.id ∉ underWay → way threshold (child.id :: underWay))) →
      graph.Holding kept underWay cache →
      Step.Yields (Task.resume graph.host ()) (answers underWay threshold)
        (task.resume graph.host () answer) verdict ∧ graph.Holding kept underWay final
  refine (evaluates_induction types walks ?ready ?frame ?done ?await).1 h underWay hnode hway hholding
  case ready =>
    rintro ⟨id, node⟩ threshold cache status final he underWay ⟨⟩ hway hholding
    exact holding_of_enter_ready hgraph hkeeps hway hholding he
  case frame =>
    rintro ⟨id, node⟩ threshold cache middle final verdict frame he hwalk underWay ⟨⟩ hway hholding
    cases enters_of_enter he with
    | @walk judged _ task hmiss hd ha =>
      have hfree := hholding.free_of_miss hmiss
      have hasked : ∀ child, Step.Asks (Task.resume graph.host ()) (answers (id :: underWay) judged)
          (task.resume graph.host () none) child → child.node = none ∧
          (child.id ∉ id :: underWay → way judged (child.id :: id :: underWay)) := by
        intro child hasks
        have hasksFor : graph.AsksFor (answers (id :: underWay) judged) judged id child :=
          ⟨task, ha, hasks⟩
        exact ⟨hgraph.node_eq_none hasksFor.mem_children, hkeeps.child (hway hfree) hd hasksFor⟩
      obtain ⟨hyields, hfinal⟩ := hwalk (id :: underWay) hasked (hholding.mark hgraph id)
      have hentry := hkeeps.judged (hway hfree) hd (.walk ha hyields)
      exact ⟨hkeeps.reports_entry hfree hentry
          (satisfies_conclusion (threshold_le_of_demand hd) _ _),
        hfinal.finish hgraph hfree hentry⟩
  case done =>
    intro threshold task answer cache verdict hr underWay _ hholding
    rw [hr]
    exact ⟨.done verdict, hholding⟩
  case await =>
    intro threshold task answer cache middle final child rest status verdict hr hchild hrest underWay
      hasked hholding
    rw [hr] at hasked ⊢
    obtain ⟨hnode, hway⟩ := hasked child .next
    obtain ⟨hreport, hmiddle⟩ := hchild underWay hnode hway hholding
    obtain ⟨hyields, hfinal⟩ := hrest underWay
      (fun other hasks => hasked other (.later hreport.admissible hasks)) hmiddle
    exact ⟨.await hreport.admissible hyields, hfinal⟩

/-- A request is answered by an admissible verdict and keeps the entries of the cache of their kind. -/
theorem holding_of_run (hgraph : graph.Unplaced) (hkeeps : graph.Keeps rules way kept answers)
    {root : TypeId} (hway : way threshold [root]) {steps : Nat} {context : Context Unit}
    {answer : Machine.Answer Unit} (hholding : graph.Holding kept [] context.cache)
    (h : Machine.run graph.host rules steps { id := root } threshold context = .ok answer) :
    (∃ found, answer.status = .settled found ∧ answers [] threshold { id := root } found) ∧
      graph.Holding kept [] answer.context.cache := by
  obtain ⟨hreport, hfinal⟩ :=
    holding_of_evaluates hgraph hkeeps rfl (fun _ => hway) hholding (evaluates_of_run h)
  obtain ⟨found, hstatus⟩ := hreport.settled List.not_mem_nil
  have hadmissible := hreport.admissible
  rw [hstatus] at hadmissible
  exact ⟨⟨found, hstatus, hadmissible⟩, hfinal⟩

end TypeGraph

end Immutability
