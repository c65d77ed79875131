import Immutability.Proofs.CacheMarks
import Immutability.Proofs.Simulation
import Immutability.Proofs.Structure

/-!
# Graphs without cycles

Below a type from which no cycle is reached, the exact verdict can be defined by recursion: from the
verdicts of the children by structure, and then by the first rule that picks the type. No threshold,
cache or order of evaluation enters the definition.

A cache is sound if every entry approximates the exact verdict under its own ceiling. An evaluation
under any threshold keeps the cache sound and ends with an approximation under the threshold, since no
type below is marked and so every reply counts.
-/

set_option autoImplicit false

namespace Immutability

/-- An entry that approximates a verdict under its own ceiling. -/
inductive Entry.StandsFor (exact : Verdict) : Entry → Prop where
  | intro {found : Verdict} {ceiling : Level} :
      Approximates ceiling found exact →
      Entry.StandsFor exact { value := .settled found, ceiling := .known ceiling }

/-- An entry that answers a request under a threshold approximates the exact verdict under it: either its
ceiling is high enough, or its value lies below the ceiling and is exact. -/
theorem Entry.StandsFor.approximates {entry : Entry} {exact : Verdict} {threshold : Level}
    (h : entry.StandsFor exact) (hs : entry.satisfies (.known threshold) = true) :
    ∃ found, entry.value = .settled found ∧ Approximates threshold found exact := by
  cases h with
  | @intro found ceiling happrox =>
    refine ⟨found, rfl, ?_⟩
    cases happrox with
    | exact => exact .exact _
    | between hf he =>
      have hle : threshold ≤ ceiling := by
        simpa [Entry.satisfies, Status.isCalculating, hf] using hs
      exact .between (hle.trans hf) he

namespace TypeGraph

variable (graph : TypeGraph) (rules : List Rule)

def judge (value : TypeRef → Verdict) (ref : TypeRef) : Verdict :=
  if graph.shape ref.id = .error then .unknown
  else
    match Rule.find? rules (graph.host.subject () ref) with
    | none => graph.structural value ref.id
    | some rule =>
      match rule.origin with
      | none => rule.target.settle
      | some origin =>
        if (Status.settled (graph.structural value ref.id)).isBetween origin rule.target
        then rule.target.settle else graph.structural value ref.id

theorem judge_congr {value other : TypeRef → Verdict} {ref : TypeRef}
    (h : ∀ child ∈ graph.children ref.id, value child = other child) :
    graph.judge rules value ref = graph.judge rules other ref := by
  unfold judge
  rw [structural_congr h]

theorem judge_eq_demand (value : TypeRef → Verdict) (ref : TypeRef) (threshold : Level) :
    graph.judge rules value ref =
      match graph.demand rules ref threshold with
      | .nothing => .unknown
      | .forced target => target.settle
      | .judged _ none => graph.structural value ref.id
      | .judged _ (some rule) =>
        if (Status.settled (graph.structural value ref.id)).isBetween rule.origin rule.target
        then rule.target.settle else graph.structural value ref.id := by
  unfold judge demand
  by_cases hs : graph.shape ref.id = .error
  · rw [if_pos hs, if_pos hs]
  · rw [if_neg hs, if_neg hs]
    cases Rule.find? rules (graph.host.subject () ref) with
    | none => rfl
    | some rule =>
      dsimp only
      cases rule.origin <;> rfl

theorem judge_of_nothing (value : TypeRef → Verdict) {ref : TypeRef} {threshold : Level}
    (hd : graph.demand rules ref threshold = .nothing) : graph.judge rules value ref = .unknown := by
  rw [judge_eq_demand graph rules value ref threshold, hd]

theorem judge_of_forced (value : TypeRef → Verdict) {ref : TypeRef} {threshold : Level}
    {target : Status} (hd : graph.demand rules ref threshold = .forced target) :
    graph.judge rules value ref = target.settle := by
  rw [judge_eq_demand graph rules value ref threshold, hd]

/-- An approximation of the verdict by structure leads to an entry that stands for the verdict by
structure and rules. -/
theorem standsFor_conclusion (value : TypeRef → Verdict) {ref : TypeRef} {threshold judged : Level}
    {pending : Option PendingRule} {found : Verdict}
    (hd : graph.demand rules ref threshold = .judged judged pending)
    (hfound : Approximates judged found (graph.structural value ref.id)) :
    (conclusion judged pending found).StandsFor (graph.judge rules value ref) := by
  rw [judge_eq_demand graph rules value ref threshold, hd]
  cases pending with
  | none => exact .intro hfound
  | some rule =>
    -- The rule needs the verdict up to the highest threshold, so what was found is exact.
    have htop : judged = .immutable := by
      rcases demand_judged_cases hd with ⟨_, hnone⟩ | ⟨htop, _⟩
      · cases hnone
      · exact htop
    rw [htop] at hfound ⊢
    rw [← hfound.eq_of_immutable]
    unfold conclusion
    dsimp only
    split
    · next hbetween =>
      cases ht : rule.target with
      | calculating =>
        rw [ht, isBetween_calculating] at hbetween
        cases hbetween
      | settled target => exact .intro (.exact target)
    · exact .intro (.exact found)

def Child (child parent : TypeRef) : Prop := child ∈ graph.children parent.id

open Classical in
/-- The exact verdict of a type, by recursion on its children. -/
noncomputable def verdict (ref : TypeRef) : Verdict :=
  if h : Acc graph.Child ref then
    WellFounded.fixF (fun ref below => graph.judge rules
      (fun child => if hc : graph.Child child ref then below child hc else .unknown) ref) ref h
  else .unknown

theorem verdict_eq {ref : TypeRef} (h : Acc graph.Child ref) :
    graph.verdict rules ref = graph.judge rules (graph.verdict rules) ref := by
  rw [verdict, dif_pos h, WellFounded.fixF_eq]
  apply judge_congr
  intro child hmem
  have hc : graph.Child child ref := hmem
  rw [dif_pos hc, verdict, dif_pos (h.inv hc)]

variable {graph rules} {ref child below : TypeRef} {threshold : Level} {cache final : Cache}

theorem not_reaches_of_child (h : Acc graph.Child ref) (hc : child ∈ graph.children ref.id) :
    ¬ graph.Reaches child ref := by
  induction h generalizing child with
  | intro ref _ ih =>
    intro hreach
    rcases Relation.ReflTransGen.cases_head hreach with rfl | ⟨next, hnext, hrest⟩
    · exact ih child hc hc .refl
    · exact ih child hc hnext (hrest.tail hc)

/-- A graph that tells its types apart and writes none of them out. -/
structure Unplaced (graph : TypeGraph) : Prop where
  identity_injective : Function.Injective graph.identity
  branches : ∀ {id : TypeId} {whenTrue whenFalse : TypeRef},
    graph.shape id = .conditional whenTrue whenFalse → whenTrue.node = none ∧ whenFalse.node = none

/-- A graph whose types are numbered by their identities and that has no choices between types. -/
theorem unplaced_of_index (hidentity : ∀ id, graph.identity id = ⟨id.index⟩)
    (hshape : ∀ {id whenTrue whenFalse}, graph.shape id ≠ .conditional whenTrue whenFalse) :
    graph.Unplaced where
  identity_injective := by
    intro ⟨one⟩ ⟨two⟩ h
    rw [hidentity, hidentity] at h
    cases h
    rfl
  branches h := absurd h hshape

theorem Unplaced.node_eq_none (hgraph : graph.Unplaced) {id : TypeId}
    (hc : child ∈ graph.children id) : child.node = none := by
  unfold children at hc
  cases hs : graph.shape id with
  | conditional whenTrue whenFalse =>
    rw [hs] at hc
    obtain ⟨htrue, hfalse⟩ := hgraph.branches hs
    rcases List.mem_pair.mp hc with rfl | rfl
    · exact htrue
    · exact hfalse
  | error =>
    rw [hs] at hc
    cases hc
  | primitive =>
    rw [hs] at hc
    cases hc
  | _ =>
    rw [hs] at hc
    exact (mem_bare.mp hc).1

theorem Unplaced.node_eq_none_of_reaches (hgraph : graph.Unplaced) (hnode : ref.node = none)
    (h : graph.Reaches ref below) : below.node = none := by
  cases h with
  | refl => exact hnode
  | tail _ hc => exact hgraph.node_eq_none hc

theorem key_of_node_eq_none (hnode : ref.node = none) :
    graph.key ref = .identity (graph.identity ref.id) := by
  unfold key TypeRef.key
  rw [hnode]

theorem Unplaced.eq_of_files (hgraph : graph.Unplaced) {other : TypeRef} (hnode : ref.node = none)
    (hother : other.node = none) (h : graph.Files ref (graph.key other)) : other = ref := by
  rw [key_of_node_eq_none hother] at h
  rcases h with hkey | hkey
  · have hid := hgraph.identity_injective (CacheKey.identity.inj hkey)
    rcases ref with ⟨id, node⟩
    rcases other with ⟨id', node'⟩
    cases hid
    cases hnode
    cases hother
    rfl
  · rw [hnode] at hkey
    cases hkey

/-- In a graph that tells its types apart, filing an entry leaves the entries of all other types. -/
theorem Unplaced.get?_file_identity (hgraph : graph.Unplaced) (hnode : ref.node = none)
    (entry : Entry) (cache : Cache) (id : TypeId) :
    (graph.file ref entry cache).get? (.identity (graph.identity id)) =
      if id = ref.id then some entry else cache.get? (.identity (graph.identity id)) := by
  have hfiles : graph.Files ref (.identity (graph.identity id)) ↔ id = ref.id := by
    constructor
    · rintro (hkey | hkey)
      · exact hgraph.identity_injective (CacheKey.identity.inj hkey)
      · rw [hnode] at hkey
        cases hkey
    · rintro rfl
      exact Or.inl rfl
  rw [get?_file]
  simp only [hfiles]

/-! ### Sound caches -/

/-- Every entry for a type without a cycle below it is a mark or approximates the exact verdict. -/
def Sound (graph : TypeGraph) (rules : List Rule) (cache : Cache) : Prop :=
  ∀ ref entry, Acc graph.Child ref → ref.node = none → cache.get? (graph.key ref) = some entry →
    entry.value ≠ .calculating → entry.StandsFor (graph.verdict rules ref)

theorem sound_empty (graph : TypeGraph) (rules : List Rule) : graph.Sound rules {} := by
  intro ref entry _ _ hget _
  cases hkey : graph.key ref <;> rw [hkey] at hget <;> simp [Cache.get?] at hget

theorem Sound.file (hgraph : graph.Unplaced) (h : graph.Sound rules cache)
    (hnode : ref.node = none) {entry : Entry}
    (hentry : entry.value ≠ .calculating → entry.StandsFor (graph.verdict rules ref)) :
    graph.Sound rules (graph.file ref entry cache) := by
  intro other found hacc hother hget hvalue
  rw [get?_file] at hget
  split at hget
  · next hfiles =>
    cases hget
    rw [hgraph.eq_of_files hnode hother hfiles]
    exact hentry hvalue
  · exact h other found hacc hother hget hvalue

theorem Sound.mark (hgraph : graph.Unplaced) (h : graph.Sound rules cache)
    (hnode : ref.node = none) : graph.Sound rules (graph.file ref .inProgress cache) :=
  h.file hgraph hnode fun hvalue => absurd rfl hvalue

theorem Sound.hit (h : graph.Sound rules cache) (hacc : Acc graph.Child ref)
    (hnode : ref.node = none) (hclear : ¬ cache.Marked (graph.key ref)) {status : Status}
    (hl : cache.lookup (graph.key ref) (.known threshold) = .hit status) :
    ∃ found, status = .settled found ∧
      Approximates threshold found (graph.verdict rules ref) := by
  obtain ⟨entry, hget, hs, rfl⟩ := Cache.lookup_eq_hit_iff.mp hl
  have hvalue : entry.value ≠ .calculating := fun hv => hclear ⟨entry, hget, hv⟩
  exact (h ref entry hacc hnode hget hvalue).approximates hs

theorem sound_conclusion (hacc : Acc graph.Child ref) {judged : Level}
    {pending : Option PendingRule} {found : Verdict}
    (hd : graph.demand rules ref threshold = .judged judged pending)
    (hfound : Approximates judged found (graph.structural (graph.verdict rules) ref.id)) :
    (conclusion judged pending found).StandsFor (graph.verdict rules ref) := by
  rw [verdict_eq graph rules hacc]
  exact standsFor_conclusion graph rules _ hd hfound

/-! ### Evaluations -/

/-- An evaluation comes back with an approximation of the exact verdict and keeps the cache sound. -/
def Settles (graph : TypeGraph) (rules : List Rule) (ref : TypeRef) (threshold : Level)
    (cache : Cache) : Prop :=
  ∃ found final, graph.Evaluates rules ref threshold cache (.settled found) final ∧
    Approximates threshold found (graph.verdict rules ref) ∧ graph.Sound rules final

theorem settles_of_entry (hgraph : graph.Unplaced) (hnode : ref.node = none)
    {entry : Entry} {middle : Cache} (hsound : graph.Sound rules middle)
    (hentry : entry.StandsFor (graph.verdict rules ref))
    (hs : entry.satisfies (.known threshold) = true)
    (h : graph.Evaluates rules ref threshold cache entry.value (graph.file ref entry middle)) :
    graph.Settles rules ref threshold cache := by
  obtain ⟨found, hvalue, happrox⟩ := hentry.approximates hs
  rw [hvalue] at h
  exact ⟨found, _, h, happrox, hsound.file hgraph hnode fun _ => hentry⟩

/-- While a type is under way its mark is the only new one, and nothing below a child can bear it. -/
theorem clear_of_child (hgraph : graph.Unplaced) (hacc : Acc graph.Child ref)
    (hnode : ref.node = none) (hc : child ∈ graph.children ref.id)
    (hclear : ∀ below, graph.Reaches ref below → ¬ cache.Marked (graph.key below)) {later : Cache}
    (hmarks : ∀ key, later.Marked key → (graph.file ref .inProgress cache).Marked key) :
    ∀ below, graph.Reaches child below → ¬ later.Marked (graph.key below) := by
  intro below hreach hmarked
  rcases marked_or_files_of_marked_file (hmarks _ hmarked) with hfiles | hmarked
  · -- The only key that bears the new mark is that of the type itself, so there would be a cycle.
    have hbelow := hgraph.node_eq_none_of_reaches (hgraph.node_eq_none hc) hreach
    rw [hgraph.eq_of_files hnode hbelow hfiles] at hreach
    exact not_reaches_of_child hacc hc hreach
  · exact hclear below (.head hc hreach) hmarked

theorem settles_of_walk (hgraph : graph.Unplaced)
    (hrules : ∀ rule ∈ rules, rule.target ≠ .calculating) (hacc : Acc graph.Child ref)
    (hnode : ref.node = none) (hsound : graph.Sound rules cache)
    (hclear : ∀ below, graph.Reaches ref below → ¬ cache.Marked (graph.key below))
    {judged : Level} {pending : Option PendingRule} {task : Task}
    (hd : graph.demand rules ref threshold = .judged judged pending)
    (ha : graph.approach ref.id (graph.shape ref.id) judged = .walk task)
    (he : graph.enter rules ref threshold cache =
      (.frame { ref, threshold := judged, pending, task }, graph.file ref .inProgress cache))
    (hchildren : ∀ child ∈ graph.children ref.id, ∀ later, graph.Sound rules later →
      (∀ below, graph.Reaches child below → ¬ later.Marked (graph.key below)) →
      graph.Settles rules child judged later) :
    graph.Settles rules ref threshold cache := by
  have hkeeps : ∀ child, child ∈ graph.children ref.id → ∀ later, (graph.Sound rules later ∧
      ∀ key, later.Marked key → (graph.file ref .inProgress cache).Marked key) →
      ∃ status final, graph.Evaluates rules child judged later status final ∧
        RepliesUpTo (graph.verdict rules) judged child status.settle ∧ (graph.Sound rules final ∧
          ∀ key, final.Marked key → (graph.file ref .inProgress cache).Marked key) := by
    rintro child hc later ⟨hlater, hmarks⟩
    obtain ⟨found, final, heval, happrox, hfinal⟩ := hchildren child hc later hlater
      (clear_of_child hgraph hacc hnode hc hclear hmarks)
    exact ⟨.settled found, final, heval, happrox, hfinal,
      fun key hm => hmarks key (marked_of_evaluates hrules heval hm)⟩
  obtain ⟨verdict, final, hfollow, hyields, hfinal, _⟩ := exists_follows _ _ hkeeps
    (fun child => mem_children_of_walk ha) none ⟨hsound.mark hgraph hnode, fun _ hm => hm⟩
  have hentry := sound_conclusion hacc hd (approximates_of_walk ha hyields)
  exact settles_of_entry hgraph hnode hfinal hentry
    (satisfies_conclusion (threshold_le_of_demand hd) _ _) (.of_frame he hfollow)

/-- Every type below an unmarked part of the graph without cycles settles, from every sound cache. -/
theorem settles_of_acc (hgraph : graph.Unplaced)
    (hrules : ∀ rule ∈ rules, rule.target ≠ .calculating) (hacc : Acc graph.Child ref)
    (hnode : ref.node = none) (threshold : Level) (hsound : graph.Sound rules cache)
    (hclear : ∀ below, graph.Reaches ref below → ¬ cache.Marked (graph.key below)) :
    graph.Settles rules ref threshold cache := by
  -- The threshold and the cache vary: a pending rule raises the one, every child changes the other.
  induction hacc generalizing threshold cache with
  | intro ref hbelow ih =>
    have hacc : Acc graph.Child ref := .intro ref hbelow
    cases he : graph.enter rules ref threshold cache with
    | mk entered middle =>
      cases enters_of_enter he with
      | hit hl =>
        obtain ⟨found, rfl, happrox⟩ := hsound.hit hacc hnode (hclear ref .refl) hl
        exact ⟨found, _, .of_ready he, happrox, hsound⟩
      | nothing _ hd =>
        refine ⟨.unknown, _, .of_ready he, ?_, hsound⟩
        rw [verdict_eq graph rules hacc, judge_of_nothing graph rules _ hd]
        exact .exact .unknown
      | @forced target _ hd =>
        cases target with
        | calculating => exact absurd rfl (ne_calculating_of_forced hrules hd)
        | settled found =>
          have hentry : Entry.StandsFor (graph.verdict rules ref) { value := .settled found } := by
            refine .intro ?_
            rw [verdict_eq graph rules hacc, judge_of_forced graph rules _ hd]
            exact .exact found
          exact settles_of_entry hgraph hnode hsound hentry (Entry.satisfies_forced _ _)
            (.of_ready he)
      | @leaf judged _ found _ hd ha =>
        have hfound := eq_structural_of_leaf (graph.verdict rules) ha
        have happrox : Approximates judged found (graph.structural (graph.verdict rules) ref.id) := by
          rw [← hfound]
          exact .exact found
        have hentry := sound_conclusion hacc hd happrox
        exact settles_of_entry hgraph hnode (hsound.mark hgraph hnode) hentry
          (satisfies_conclusion (threshold_le_of_demand hd) _ _) (.of_ready he)
      | @walk judged pending task _ hd ha =>
        refine settles_of_walk hgraph hrules hacc hnode hsound hclear hd ha he ?_
        intro child hc later hlater hbelow
        exact ih child hc (hgraph.node_eq_none hc) judged hlater hbelow

/-! ### Requests -/

variable {context : Context Unit}

theorem exists_run (hgraph : graph.Unplaced)
    (hrules : ∀ rule ∈ rules, rule.target ≠ .calculating) (hacc : Acc graph.Child ref)
    (hnode : ref.node = none) (threshold : Level) (hsound : graph.Sound rules context.cache)
    (hclear : ∀ key, ¬ context.cache.Marked key) :
    ∃ steps answer found, Machine.run graph.host rules steps ref threshold context = .ok answer ∧
      answer.status = .settled found ∧
      Approximates threshold found (graph.verdict rules ref) ∧
      graph.Sound rules answer.context.cache := by
  obtain ⟨found, final, heval, happrox, hfinal⟩ :=
    settles_of_acc hgraph hrules hacc hnode threshold hsound fun below _ => hclear _
  have hroot : ∀ entry, context.cache.get? (graph.key ref) = some entry →
      entry.value ≠ .calculating :=
    fun entry hget hvalue => hclear _ ⟨entry, hget, hvalue⟩
  obtain ⟨steps, answer, hrun, hstatus, rfl⟩ := run_of_evaluates hroot heval
  exact ⟨steps, answer, found, hrun, hstatus, happrox, hfinal⟩

/-- The answer to a request approximates the exact verdict under the threshold of the request, and is
exact under the highest one; the cache it leaves behind is sound. -/
def Refines (graph : TypeGraph) (rules : List Rule) (request : Machine.Request)
    (answer : Machine.Answer Unit) : Prop :=
  ∃ found, answer.status = .settled found ∧
    Approximates request.threshold found (graph.verdict rules request.root) ∧
    (request.threshold = .immutable → found = graph.verdict rules request.root) ∧
    graph.Sound rules answer.context.cache

theorem exists_runAll (hgraph : graph.Unplaced)
    (hrules : ∀ rule ∈ rules, rule.target ≠ .calculating) {requests : List Machine.Request}
    (hrequests : ∀ request ∈ requests, request.rules = rules ∧ request.root.node = none ∧
      Acc graph.Child request.root)
    (context : Context Unit) (hsound : graph.Sound rules context.cache)
    (hclear : ∀ key, ¬ context.cache.Marked key) :
    ∃ steps answers, Machine.runAll graph.host steps requests context = .ok answers ∧
      List.Forall₂ (graph.Refines rules) requests answers := by
  -- The invariant of the requests: the cache is sound and bears no marks.
  let good (context : Context Unit) : Prop :=
    graph.Sound rules context.cache ∧ ∀ key, ¬ context.cache.Marked key
  refine Machine.exists_runAll_of_run ?_ (show good context from ⟨hsound, hclear⟩)
  rintro request hmem context ⟨hsound, hclear⟩
  obtain ⟨rfl, hnode, hacc⟩ := hrequests request hmem
  obtain ⟨steps, answer, found, hrun, hstatus, happrox, hfinal⟩ :=
    exists_run hgraph hrules hacc hnode request.threshold hsound hclear
  have hkept := (settled_of_run hrules hrun).2
  refine ⟨steps, answer, hrun, ⟨found, hstatus, happrox, ?_, hfinal⟩, hfinal, ?_⟩
  · exact fun htop => (htop ▸ happrox).eq_of_immutable
  · exact fun key hm => hclear key (hkept key hm)

/-- Requests below which there is no cycle, made one after another through one cache that starts empty,
all end, and their answers refine the exact verdicts that the recursion defines. -/
theorem runAll_refines_verdict (graph : TypeGraph) (rules : List Rule) (hgraph : graph.Unplaced)
    (hrules : ∀ rule ∈ rules, rule.target ≠ .calculating) (requests : List Machine.Request)
    (hrequests : ∀ request ∈ requests, request.rules = rules ∧ request.root.node = none ∧
      Acc graph.Child request.root) (journal : Journal) :
    (∀ ref, Acc graph.Child ref →
      graph.verdict rules ref = graph.judge rules (graph.verdict rules) ref) ∧
    ∃ steps answers,
      (∀ more, steps ≤ more →
        Machine.runAll graph.host more requests { state := (), journal } = .ok answers) ∧
      List.Forall₂ (graph.Refines rules) requests answers := by
  refine ⟨fun ref => verdict_eq graph rules, ?_⟩
  obtain ⟨steps, answers, hrun, hall⟩ := exists_runAll hgraph hrules hrequests
    { state := (), journal } (sound_empty graph rules) not_marked_empty
  exact ⟨steps, answers, fun more hle => Machine.runAll_ok_of_le hrun hle, hall⟩

/-- A record with a method and a list of entries, each of which holds a number. -/
def ledger : TypeGraph where
  shape id :=
    match id.index with
    | 1 => .object .plain
    | 2 => .object .array
    | 3 => .object .plain
    | _ => .primitive
  properties id :=
    match id.index with
    | 1 => [.readonly "amount" ⟨0⟩]
    | 2 => [.readonly "length" ⟨0⟩]
    | 3 => [.readonly "entries" ⟨2⟩, .method "total" ⟨0⟩]
    | _ => []
  callable _ := false
  isReference id := id.index == 2
  typeArguments id := if id.index = 2 then [⟨1⟩] else []
  indexSignature id kind :=
    if id.index = 2 ∧ kind = .number then some { value := ⟨1⟩, readonly := true } else none
  identity id := ⟨id.index⟩
  typeName ref := { evaluated := if ref.id.index = 1 then "Entry" else "Other" }
  declarationFiles _ := []
  program := { currentDirectory := "/" }

theorem ledger_child_lt {child parent : TypeRef} (h : ledger.Child child parent) :
    child.id.index < parent.id.index := by
  have hmem : ∀ index, ∀ child ∈ ledger.children ⟨index⟩, child.id.index < index
    | 0 => nofun
    | 1 => by decide
    | 2 => by decide
    | 3 => by decide
    | _ + 4 => nofun
  exact hmem parent.id.index child h

theorem ledger_unplaced : ledger.Unplaced := by
  refine unplaced_of_index (fun _ => rfl) ?_
  intro id whenTrue whenFalse h
  simp only [ledger] at h
  split at h <;> cases h

/-- A rule takes back what is found for the entries, and so for the record. -/
theorem verdict_ledger :
    let rule : Rule := { specifier := { names := ["Entry"] }, target := .known .readonlyShallow,
                         origin := some (.known .immutable) }
    ledger.verdict [rule] ⟨⟨3⟩, none⟩ = .known .readonlyShallow := by
  intro rule
  let requests : List Machine.Request :=
    [⟨[rule], ⟨⟨2⟩, none⟩, .readonlyShallow⟩, ⟨[rule], ⟨⟨3⟩, none⟩, .immutable⟩]
  have hacc : ∀ ref, Acc ledger.Child ref :=
    (Subrelation.wf ledger_child_lt (measure fun ref : TypeRef => ref.id.index).wf).apply
  have hrequests : ∀ request ∈ requests, request.rules = [rule] ∧ request.root.node = none ∧
      Acc ledger.Child request.root := by
    simp [requests, hacc]
  have hstatus : (Machine.runAll ledger.host 40 requests { state := () }).toOption.map
      (·.map (·.status)) = some [.known .readonlyShallow, .known .readonlyShallow] := by
    decide +kernel
  obtain ⟨_, steps, answers, hrun, hall⟩ := runAll_refines_verdict ledger [rule] ledger_unplaced
    (by simp [rule]) requests hrequests {}
  cases hforty : Machine.runAll ledger.host 40 requests { state := () } with
  | error fault =>
    rw [hforty] at hstatus
    cases hstatus
  | ok others =>
    have hsame := (Machine.runAll_ok_of_le hforty (Nat.le_max_right steps 40)).symm.trans
      (hrun _ (Nat.le_max_left steps 40))
    cases hsame
    rw [hforty] at hstatus
    obtain ⟨first, _, _, hrest, rfl⟩ := List.forall₂_cons_left_iff.mp hall
    obtain ⟨last, _, ⟨found, hfound, _, hexact, _⟩, _, rfl⟩ := List.forall₂_cons_left_iff.mp hrest
    simp only [Except.toOption, Option.map_some, Option.some.injEq, List.map_cons, hfound,
      List.cons.injEq, Status.settled.injEq] at hstatus
    rw [← hexact rfl, hstatus.2.1]

end TypeGraph

end Immutability
