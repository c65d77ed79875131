import Immutability.Proofs.Evaluation
import Mathlib.Data.List.Forall2
import Mathlib.Logic.Relation

/-!
# Runs of the machine over a type graph

`Leads` lists everything that a step can do over a type graph, in terms of the cache, the stack and the
answer that the innermost walk waits for. Both directions are here: every running step is such a move,
and every such move is a step. What a run does as a whole is proved from the moves, without opening
the machine again.
-/

set_option autoImplicit false

namespace Immutability

/-- What matters of a machine over a graph: everything but its journal. -/
structure View where
  cache : Cache
  stack : List Frame
  answer : Option Verdict

namespace Machine

variable {σ : Type}

def view (machine : Machine Unit) : View :=
  ⟨machine.context.cache, machine.stack, machine.answer⟩

def after (host : Host σ) (rules : List Rule) : Nat → Machine σ → Option (Machine σ)
  | 0, machine => some machine
  | steps + 1, machine =>
    match machine.step host rules with
    | .running next => after host rules steps next
    | _ => none

/-- The machines that a request passes through once a frame is on the stack. -/
inductive Moment (host : Host σ) (rules : List Rule) (root : TypeRef) (threshold : Level)
    (context : Context σ) : Machine σ → Prop where
  | start {missed entered : Context σ} {frame : Frame} :
      context.consult host root threshold = (none, missed) →
      enter host rules root threshold missed = (.frame frame, entered) →
      Moment host rules root threshold context (push { context := entered, stack := [] } frame)
  | step {machine next : Machine σ} :
      Moment host rules root threshold context machine →
      machine.step host rules = .running next →
      Moment host rules root threshold context next

structure Request where
  rules : List Rule
  root : TypeRef
  threshold : Level

def runAll (host : Host σ) (steps : Nat) : List Request → Context σ →
    Except Fault (List (Answer σ))
  | [], _ => .ok []
  | request :: rest, context => do
    let answer ← run host request.rules steps request.root request.threshold context
    let answers ← runAll host steps rest answer.context
    return answer :: answers

variable {host : Host σ} {rules : List Rule}

theorem runAll_cons_ok {steps : Nat} {request : Request} {rest : List Request}
    {context : Context σ} {answer : Answer σ}
    (h : run host request.rules steps request.root request.threshold context = .ok answer) :
    runAll host steps (request :: rest) context =
      (runAll host steps rest answer.context).map (answer :: ·) := by
  rw [runAll, h]
  change (runAll host steps rest answer.context).bind _ = _
  cases runAll host steps rest answer.context <;> rfl

theorem runAll_cons_error {steps : Nat} {request : Request} {rest : List Request}
    {context : Context σ} {fault : Fault}
    (h : run host request.rules steps request.root request.threshold context = .error fault) :
    runAll host steps (request :: rest) context = .error fault := by
  rw [runAll, h]
  rfl

theorem exists_of_runAll_cons {steps : Nat} {request : Request} {rest : List Request}
    {context : Context σ} {answers : List (Answer σ)}
    (h : runAll host steps (request :: rest) context = .ok answers) :
    ∃ answer others,
      run host request.rules steps request.root request.threshold context = .ok answer ∧
      runAll host steps rest answer.context = .ok others ∧ answers = answer :: others := by
  cases hrun : run host request.rules steps request.root request.threshold context with
  | error fault =>
    rw [runAll_cons_error hrun] at h
    cases h
  | ok answer =>
    rw [runAll_cons_ok hrun] at h
    cases hrest : runAll host steps rest answer.context with
    | error fault =>
      rw [hrest] at h
      cases h
    | ok others =>
      rw [hrest] at h
      cases h
      exact ⟨answer, others, rfl, hrest, rfl⟩

theorem after_succ_of_step {machine next : Machine σ} (h : machine.step host rules = .running next)
    (steps : Nat) : after host rules (steps + 1) machine = after host rules steps next := by
  rw [after, h]

theorem exists_step_of_after {steps : Nat} {machine last : Machine σ}
    (h : after host rules (steps + 1) machine = some last) :
    ∃ next, machine.step host rules = .running next ∧ after host rules steps next = some last := by
  rw [after] at h
  split at h
  · exact ⟨_, by assumption, h⟩
  · exact absurd h (by simp)

theorem loop_add_of_after {taken : Nat} {machine last : Machine σ}
    (h : after host rules taken machine = some last) (steps : Nat) :
    loop host rules (taken + steps) machine = loop host rules steps last := by
  induction taken generalizing machine with
  | zero =>
    cases h
    rw [Nat.zero_add]
  | succ taken ih =>
    obtain ⟨next, hs, ha⟩ := exists_step_of_after h
    rw [Nat.add_right_comm, loop, hs]
    exact ih ha

/-- A loop that ends has steps left for every machine on its way. -/
theorem loop_of_loop_after {steps taken : Nat} {machine last : Machine σ} {answer : Answer σ}
    (h : loop host rules steps machine = .ok answer)
    (ha : after host rules taken machine = some last) :
    ∃ left, left + taken = steps ∧ loop host rules left last = .ok answer := by
  induction taken generalizing machine steps with
  | zero =>
    cases ha
    exact ⟨steps, rfl, h⟩
  | succ taken ih =>
    obtain ⟨next, hs, ha⟩ := exists_step_of_after ha
    cases steps with
    | zero => exact absurd h (by simp [loop])
    | succ steps =>
      rw [loop, hs] at h
      obtain ⟨left, hl, hleft⟩ := ih h ha
      exact ⟨left, by omega, hleft⟩

theorem loop_eq_of_le {steps more : Nat} {machine : Machine σ}
    (h : loop host rules steps machine ≠ .error .stepsSpent) (hle : steps ≤ more) :
    loop host rules more machine = loop host rules steps machine := by
  induction steps generalizing machine more with
  | zero => exact absurd rfl h
  | succ steps ih =>
    cases more with
    | zero => exact absurd hle (Nat.not_succ_le_zero steps)
    | succ more =>
      unfold loop at h ⊢
      cases hs : machine.step host rules with
      | running next =>
        rw [hs] at h
        exact ih h (Nat.le_of_succ_le_succ hle)
      | ended verdict context => rfl
      | failed fault => rfl

theorem run_eq_of_le {steps more : Nat} {root : TypeRef} {threshold : Level} {context : Context σ}
    (h : run host rules steps root threshold context ≠ .error .stepsSpent) (hle : steps ≤ more) :
    run host rules more root threshold context = run host rules steps root threshold context := by
  unfold run at h ⊢
  split
  · rfl
  · rfl
  · next missed hm =>
    rw [hm] at h
    dsimp only at h
    split
    · rfl
    · next frame entered he =>
      rw [he] at h
      exact loop_eq_of_le h hle

theorem run_ok_of_le {steps more : Nat} {root : TypeRef} {threshold : Level} {context : Context σ}
    {answer : Answer σ} (h : run host rules steps root threshold context = .ok answer)
    (hle : steps ≤ more) : run host rules more root threshold context = .ok answer := by
  have hspent : run host rules steps root threshold context ≠ .error .stepsSpent := by
    rw [h]
    exact nofun
  rw [run_eq_of_le hspent hle, h]

theorem runAll_ok_of_le {steps more : Nat} {requests : List Request} {context : Context σ}
    {answers : List (Answer σ)} (h : runAll host steps requests context = .ok answers)
    (hle : steps ≤ more) : runAll host more requests context = .ok answers := by
  induction requests generalizing context answers with
  | nil => exact h
  | cons request requests ih =>
    obtain ⟨answer, others, hrun, hrest, rfl⟩ := exists_of_runAll_cons h
    rw [runAll_cons_ok (run_ok_of_le hrun hle), ih hrest]
    rfl

/-- What holds of the answer to each request, if it starts from a good context, and leaves a good context
to the next one, holds of the answers to all of them. -/
theorem forall₂_of_runAll {good : Context σ → Prop} {meets : TypeId → Answer σ → Prop} {steps : Nat}
    {threshold : Level} {ids : List TypeId}
    (hstep : ∀ id ∈ ids, ∀ context answer, good context →
      run host rules steps { id } threshold context = .ok answer →
      meets id answer ∧ good answer.context)
    {context : Context σ} {answers : List (Answer σ)} (hgood : good context)
    (h : runAll host steps (ids.map fun id => ⟨rules, { id }, threshold⟩) context = .ok answers) :
    List.Forall₂ meets ids answers := by
  induction ids generalizing context answers with
  | nil =>
    cases h
    exact .nil
  | cons id ids ih =>
    obtain ⟨answer, others, hrun, hrest, rfl⟩ := exists_of_runAll_cons h
    obtain ⟨hfirst, hlater⟩ := List.forall_mem_cons.mp hstep
    obtain ⟨hmeets, hkept⟩ := hfirst context answer hgood hrun
    exact .cons hmeets (ih hlater hkept hrest)

/-- Requests that end one by one on good caches end one after another. -/
theorem exists_runAll_of_run {good : Context σ → Prop} {meets : Request → Answer σ → Prop}
    {requests : List Request}
    (hstep : ∀ request ∈ requests, ∀ context, good context → ∃ steps answer,
      run host request.rules steps request.root request.threshold context = .ok answer ∧
      meets request answer ∧ good answer.context)
    {context : Context σ} (hgood : good context) :
    ∃ steps answers, runAll host steps requests context = .ok answers ∧
      List.Forall₂ meets requests answers := by
  induction requests generalizing context with
  | nil => exact ⟨0, [], rfl, .nil⟩
  | cons request requests ih =>
    obtain ⟨hfirst, hlater⟩ := List.forall_mem_cons.mp hstep
    obtain ⟨first, answer, hrun, hmeets, hkept⟩ := hfirst context hgood
    obtain ⟨later, answers, hrest, hall⟩ := ih hlater hkept
    refine ⟨max first later, answer :: answers, ?_, .cons hmeets hall⟩
    have hmore := run_ok_of_le hrun (Nat.le_max_left first later)
    rw [runAll_cons_ok hmore, runAll_ok_of_le hrest (Nat.le_max_right first later)]
    rfl

theorem loop_unique {steps others : Nat} {machine : Machine σ} {one two : Answer σ}
    (hone : loop host rules steps machine = .ok one)
    (htwo : loop host rules others machine = .ok two) : one = two := by
  have hne : ∀ {count answer}, loop host rules count machine = .ok answer →
      loop host rules count machine ≠ .error .stepsSpent := by
    intro count answer h
    rw [h]
    exact nofun
  have h := loop_eq_of_le (hne hone) (Nat.le_max_left steps others)
  rw [loop_eq_of_le (hne htwo) (Nat.le_max_right steps others), hone, htwo] at h
  cases h
  rfl

end Machine

namespace TypeGraph

/-- The moves of a machine over a type graph, one for each thing that a step can do and still run on. -/
inductive Leads (graph : TypeGraph) (rules : List Rule) : View → View → Prop where
  /-- The child that the walk asks for is answered at once. -/
  | answered {cache final : Cache} {frame : Frame} {below : List Frame} {answer : Option Verdict}
      {child : TypeRef} {task : Task} {status : Status} :
      frame.task.resume graph.host () answer = .await child task →
      graph.enter rules child frame.threshold cache = (.ready status, final) →
      Leads graph rules ⟨cache, frame :: below, answer⟩
        ⟨final, { frame with task } :: below, some status.settle⟩
  /-- The child needs a frame of its own. -/
  | pushed {cache final : Cache} {frame inner : Frame} {below : List Frame}
      {answer : Option Verdict} {child : TypeRef} {task : Task} :
      frame.task.resume graph.host () answer = .await child task →
      graph.enter rules child frame.threshold cache = (.frame inner, final) →
      Leads graph rules ⟨cache, frame :: below, answer⟩
        ⟨final, inner :: { frame with task } :: below, none⟩
  /-- The walk is done and its verdict goes to the frame below. -/
  | resolved {cache : Cache} {frame outer : Frame} {below : List Frame} {answer : Option Verdict}
      {verdict found : Verdict} :
      frame.task.resume graph.host () answer = .done verdict →
      (conclusion frame.threshold frame.pending verdict).value = .settled found →
      Leads graph rules ⟨cache, frame :: outer :: below, answer⟩
        ⟨graph.file frame.ref (conclusion frame.threshold frame.pending verdict) cache,
          outer :: below, some found⟩

variable {graph : TypeGraph} {rules : List Rule} {machine next : Machine Unit}

theorem step_await {frame : Frame} {below : List Frame} {child : TypeRef} {task : Task}
    (hs : machine.stack = frame :: below)
    (hr : frame.task.resume graph.host () machine.answer = .await child task) :
    machine.step graph.host rules = .running (Machine.ask graph.host rules child frame.threshold
      { machine with stack := { frame with task } :: below, answer := none }) := by
  have hr : frame.task.resume graph.host machine.context.state machine.answer =
      .await child task := hr
  rw [Machine.step, hs]
  dsimp only
  rw [hr]

theorem step_done {frame : Frame} {below : List Frame} {verdict : Verdict}
    (hs : machine.stack = frame :: below)
    (hr : frame.task.resume graph.host () machine.answer = .done verdict) :
    machine.step graph.host rules =
      Machine.resolve graph.host frame below verdict machine.context := by
  have hr : frame.task.resume graph.host machine.context.state machine.answer =
      .done verdict := hr
  rw [Machine.step, hs]
  dsimp only
  rw [hr]

theorem ask_ready {child : TypeRef} {threshold : Level} {status : Status} {final : Cache}
    {context : Context Unit} {stack : List Frame} {answer : Option Verdict}
    (h : graph.enter rules child threshold context.cache = (.ready status, final)) :
    (Machine.ask graph.host rules child threshold ⟨context, stack, answer⟩).view =
      ⟨final, stack, some status.settle⟩ := by
  obtain ⟨later, he, hcache⟩ := enter_of_view h
  unfold Machine.ask
  rw [he]
  exact congrArg (View.mk · _ _) hcache

theorem ask_frame {child : TypeRef} {threshold : Level} {frame : Frame} {final : Cache}
    {context : Context Unit} {stack : List Frame} {answer : Option Verdict}
    (h : graph.enter rules child threshold context.cache = (.frame frame, final)) :
    (Machine.ask graph.host rules child threshold ⟨context, stack, answer⟩).view =
      ⟨final, frame :: stack, none⟩ := by
  obtain ⟨later, he, hcache⟩ := enter_of_view h
  unfold Machine.ask
  rw [he]
  exact congrArg (View.mk · _ _) hcache

theorem resolve_cons (graph : TypeGraph) (context : Context Unit) {frame : Frame}
    (outer : Frame) (below : List Frame) {verdict found : Verdict}
    (hf : (conclusion frame.threshold frame.pending verdict).value = .settled found) :
    ∃ next, Machine.resolve graph.host frame (outer :: below) verdict context = .running next ∧
      next.view = ⟨graph.file frame.ref (conclusion frame.threshold frame.pending verdict)
        context.cache, outer :: below, some found⟩ := by
  unfold Machine.resolve
  dsimp only
  generalize hc : conclude graph.host frame.ref frame.threshold frame.pending verdict _ = concluded
  have hv := graph.conclude_view frame.ref frame.threshold frame.pending verdict
    (context.note fun _ => .frameResolved frame.ref.id (outer :: below).length verdict)
  rw [hc, hf] at hv
  obtain ⟨status, final⟩ := concluded
  obtain ⟨rfl, hcache⟩ := hv
  exact ⟨_, rfl, congrArg (View.mk · _ _) hcache⟩

theorem resolve_nil (graph : TypeGraph) (context : Context Unit) {frame : Frame}
    {verdict found : Verdict}
    (hf : (conclusion frame.threshold frame.pending verdict).value = .settled found) :
    ∃ final, Machine.resolve graph.host frame [] verdict context = .ended found final ∧
      final.cache = graph.file frame.ref (conclusion frame.threshold frame.pending verdict)
        context.cache := by
  unfold Machine.resolve
  dsimp only
  generalize hc : conclude graph.host frame.ref frame.threshold frame.pending verdict _ = concluded
  have hv := graph.conclude_view frame.ref frame.threshold frame.pending verdict
    (context.note fun _ => .frameResolved frame.ref.id ([] : List Frame).length verdict)
  rw [hc, hf] at hv
  obtain ⟨status, final⟩ := concluded
  obtain ⟨rfl, hcache⟩ := hv
  exact ⟨_, rfl, hcache⟩

/-- Every step with a frame on the stack is a move, or takes the last frame off and ends. -/
theorem step_cases (graph : TypeGraph) (rules : List Rule) {frame : Frame} {below : List Frame}
    (hs : machine.stack = frame :: below) :
    (∃ next, machine.step graph.host rules = .running next ∧
      graph.Leads rules machine.view next.view) ∨
    (∃ verdict found final, below = [] ∧
      frame.task.resume graph.host () machine.answer = .done verdict ∧
      (conclusion frame.threshold frame.pending verdict).value = .settled found ∧
      machine.step graph.host rules = .ended found final ∧
      final.cache = graph.file frame.ref (conclusion frame.threshold frame.pending verdict)
        machine.context.cache) := by
  have hview : machine.view = ⟨machine.context.cache, frame :: below, machine.answer⟩ := by
    rw [Machine.view, hs]
  cases hr : frame.task.resume graph.host () machine.answer with
  | await child task =>
    refine Or.inl ⟨_, step_await hs hr, ?_⟩
    rw [hview]
    cases he : graph.enter rules child frame.threshold machine.context.cache with
    | mk entered final =>
      cases entered with
      | ready status =>
        rw [ask_ready he]
        exact .answered hr he
      | frame inner =>
        rw [ask_frame he]
        exact .pushed hr he
  | done verdict =>
    obtain ⟨found, hf⟩ := conclusion_settled frame.threshold frame.pending verdict
    cases below with
    | nil =>
      obtain ⟨final, hresolve, hcache⟩ := resolve_nil graph machine.context hf
      exact Or.inr ⟨verdict, found, final, rfl, rfl, hf, (step_done hs hr).trans hresolve, hcache⟩
    | cons outer below =>
      obtain ⟨next, hresolve, hnext⟩ := resolve_cons graph machine.context outer below hf
      refine Or.inl ⟨next, (step_done hs hr).trans hresolve, ?_⟩
      rw [hview, hnext]
      exact .resolved hr hf

theorem leads_of_step (hne : machine.stack ≠ [])
    (h : machine.step graph.host rules = .running next) :
    graph.Leads rules machine.view next.view := by
  obtain ⟨frame, below, hs⟩ := List.exists_cons_of_ne_nil hne
  rcases step_cases graph rules hs with ⟨other, hstep, hl⟩ | ⟨_, _, _, _, _, _, hstep, _⟩
  · rw [h] at hstep
    cases hstep
    exact hl
  · rw [h] at hstep
    cases hstep

theorem step_of_leads {finish : View} (h : graph.Leads rules machine.view finish) :
    ∃ next, machine.step graph.host rules = .running next ∧ next.view = finish := by
  generalize hview : machine.view = start at h
  cases h with
  | answered hr he =>
    obtain ⟨rfl, hs, rfl⟩ := View.mk.injEq .. ▸ hview
    exact ⟨_, step_await hs hr, ask_ready he⟩
  | pushed hr he =>
    obtain ⟨rfl, hs, rfl⟩ := View.mk.injEq .. ▸ hview
    exact ⟨_, step_await hs hr, ask_frame he⟩
  | resolved hr hf =>
    obtain ⟨rfl, hs, rfl⟩ := View.mk.injEq .. ▸ hview
    obtain ⟨next, hresolve, hnext⟩ := resolve_cons graph machine.context _ _ hf
    exact ⟨next, (step_done hs hr).trans hresolve, hnext⟩

/-- A chain of moves is walked through by the machine in some number of steps. -/
theorem after_of_leads {finish : View}
    (h : Relation.ReflTransGen (graph.Leads rules) machine.view finish) :
    ∃ steps last, Machine.after graph.host rules steps machine = some last ∧
      last.view = finish := by
  generalize hview : machine.view = start at h
  induction h using Relation.ReflTransGen.head_induction_on generalizing machine with
  | refl => exact ⟨0, machine, rfl, hview⟩
  | head hl _ ih =>
    subst hview
    obtain ⟨next, hstep, hnext⟩ := step_of_leads hl
    obtain ⟨steps, last, hlast, hfinish⟩ := ih hnext
    exact ⟨steps + 1, last, (Machine.after_succ_of_step hstep steps).trans hlast, hfinish⟩

/-- A loop that ends has fewer steps left once some moves were made. -/
theorem loop_of_leads {steps : Nat} {result : Machine.Answer Unit} {finish : View}
    (h : Machine.loop graph.host rules steps machine = .ok result)
    (hl : Relation.TransGen (graph.Leads rules) machine.view finish) :
    ∃ left last, left < steps ∧ Machine.loop graph.host rules left last = .ok result ∧
      last.view = finish := by
  obtain ⟨first, hfirst, hrest⟩ := Relation.TransGen.head'_iff.mp hl
  obtain ⟨next, hstep, hnext⟩ := step_of_leads hfirst
  subst hnext
  obtain ⟨taken, last, hlast, hfinish⟩ := after_of_leads hrest
  have hall := (Machine.after_succ_of_step hstep taken).trans hlast
  obtain ⟨left, hleft, hloop⟩ := Machine.loop_of_loop_after h hall
  exact ⟨left, last, by omega, hloop, hfinish⟩

/-- A move changes the innermost frame at most; whatever lies below it stays. -/
theorem Leads.below_suffix {start finish : View} (h : graph.Leads rules start finish)
    {kept : List Frame} (hkept : kept <:+ start.stack) (hlt : kept.length < start.stack.length) :
    kept <:+ finish.stack := by
  have drop : ∀ {frame : Frame} {below : List Frame}, kept <:+ frame :: below →
      kept.length < (frame :: below).length → kept <:+ below := by
    intro frame below hk hl
    rcases List.suffix_cons_iff.mp hk with heq | hk
    · rw [heq] at hl
      exact absurd hl (Nat.lt_irrefl _)
    · exact hk
  cases h with
  | answered => exact (drop hkept hlt).trans (List.suffix_cons _ _)
  | pushed =>
    exact ((drop hkept hlt).trans (List.suffix_cons _ _)).trans (List.suffix_cons _ _)
  | resolved => exact drop hkept hlt

/-- What lies below a child stays the same up to the moment at which the child is taken off. -/
theorem suffix_of_after {steps : Nat} {last : Machine Unit} {kept : List Frame}
    (hkept : kept <:+ machine.stack)
    (hafter : Machine.after graph.host rules steps machine = some last)
    (habove : ∀ earlier < steps, ∀ between,
      Machine.after graph.host rules earlier machine = some between →
      kept.length < between.stack.length) :
    kept <:+ last.stack := by
  induction steps generalizing machine with
  | zero =>
    cases hafter
    exact hkept
  | succ steps ih =>
    obtain ⟨next, hstep, hafter⟩ := Machine.exists_step_of_after hafter
    have hlt := habove 0 (Nat.succ_pos steps) machine rfl
    have hne : machine.stack ≠ [] := List.ne_nil_of_length_pos (Nat.zero_lt_of_lt hlt)
    refine ih ((leads_of_step hne hstep).below_suffix hkept hlt) hafter ?_
    intro earlier hearlier between hbetween
    exact habove (earlier + 1) (Nat.succ_lt_succ hearlier) between
      ((Machine.after_succ_of_step hstep earlier).trans hbetween)

theorem Leads.stack_ne_nil {start finish : View} (h : graph.Leads rules start finish) :
    finish.stack ≠ [] := by
  cases h <;> exact List.cons_ne_nil _ _

/-- A run over a type graph can only stop for want of steps. -/
theorem eq_stepsSpent_of_loop {steps : Nat} {fault : Fault} (hne : machine.stack ≠ [])
    (h : Machine.loop graph.host rules steps machine = .error fault) : fault = .stepsSpent := by
  induction steps generalizing machine with
  | zero =>
    cases h
    rfl
  | succ steps ih =>
    obtain ⟨frame, below, hs⟩ := List.exists_cons_of_ne_nil hne
    rw [Machine.loop] at h
    rcases step_cases graph rules hs with ⟨next, hstep, hl⟩ | ⟨_, _, _, _, _, _, hstep, _⟩
    · rw [hstep] at h
      exact ih hl.stack_ne_nil h
    · rw [hstep] at h
      cases h

variable {root : TypeRef} {threshold : Level} {context : Context Unit}

theorem moment_stack_ne_nil
    (h : Machine.Moment graph.host rules root threshold context machine) :
    machine.stack ≠ [] := by
  induction h with
  | start => exact List.cons_ne_nil _ _
  | step _ hstep ih => exact (leads_of_step ih hstep).stack_ne_nil

theorem consult_cache (graph : TypeGraph) (ref : TypeRef) (threshold : Level)
    (context : Context Unit) :
    (context.consult graph.host ref threshold).2.cache = context.cache := by
  unfold Context.consult
  dsimp only
  split <;> rfl

/-- The first machine of a request holds the frame of its root, entered from the given cache. -/
theorem enter_of_start {missed entered : Context Unit} {frame : Frame}
    (hmiss : context.consult graph.host root threshold = (none, missed))
    (henter : Immutability.enter graph.host rules root threshold missed = (.frame frame, entered)) :
    graph.enter rules root threshold context.cache = (.frame frame, entered.cache) := by
  have hcache : missed.cache = context.cache := by
    rw [← consult_cache graph root threshold context, hmiss]
  have hview := graph.enter_view rules root threshold missed
  rw [henter, hcache] at hview
  exact hview.symm

theorem consult_hit {status : Status}
    (h : context.cache.lookup (graph.key root) (.known threshold) = .hit status) :
    ∃ noted, context.consult graph.host root threshold = (some status, noted) ∧
      noted.cache = context.cache := by
  have hk : context.key graph.host root = graph.key root := rfl
  unfold Context.consult
  simp only [hk, h]
  exact ⟨_, rfl, rfl⟩

theorem consult_miss
    (h : ∀ status, context.cache.lookup (graph.key root) (.known threshold) ≠ .hit status) :
    ∃ noted, context.consult graph.host root threshold = (none, noted) ∧
      noted.cache = context.cache := by
  have hk : context.key graph.host root = graph.key root := rfl
  unfold Context.consult
  cases hl : context.cache.lookup (graph.key root) (.known threshold) with
  | absent =>
    simp only [hk, hl]
    exact ⟨_, rfl, rfl⟩
  | below value =>
    simp only [hk, hl]
    exact ⟨_, rfl, rfl⟩
  | hit status => exact absurd hl (h status)

theorem run_marked
    (h : context.cache.lookup (graph.key root) (.known threshold) = .hit .calculating)
    (steps : Nat) :
    Machine.run graph.host rules steps root threshold context =
      .error (.stillCalculating root.id) := by
  obtain ⟨noted, hn, _⟩ := consult_hit h
  rw [Machine.run, hn]

theorem run_hit (rules : List Rule) {verdict : Verdict}
    (h : context.cache.lookup (graph.key root) (.known threshold) = .hit (.settled verdict))
    (steps : Nat) :
    ∃ noted, Machine.run graph.host rules steps root threshold context =
      .ok { status := .settled verdict, cacheHit := true, context := noted } ∧
      noted.cache = context.cache := by
  obtain ⟨noted, hn, hcache⟩ := consult_hit h
  refine ⟨noted, ?_, hcache⟩
  rw [Machine.run, hn]

theorem run_ready {status : Status} {final : Cache}
    (hmiss : ∀ status, context.cache.lookup (graph.key root) (.known threshold) ≠ .hit status)
    (he : graph.enter rules root threshold context.cache = (.ready status, final)) (steps : Nat) :
    ∃ entered, Machine.run graph.host rules steps root threshold context =
      .ok { status, cacheHit := false, context := entered } ∧ entered.cache = final := by
  obtain ⟨noted, hn, hcache⟩ := consult_miss hmiss
  obtain ⟨later, henter, hlater⟩ := enter_of_view (hcache ▸ he)
  refine ⟨later, ?_, hlater⟩
  rw [Machine.run, hn]
  dsimp only
  rw [henter]

theorem not_hit_of_enter_frame {frame : Frame} {cache middle : Cache}
    (he : graph.enter rules root threshold cache = (.frame frame, middle)) (status : Status) :
    cache.lookup (graph.key root) (.known threshold) ≠ .hit status := by
  intro hl
  rw [graph.enter_hit rules hl] at he
  cases he

theorem run_frame {frame : Frame} {middle : Cache}
    (he : graph.enter rules root threshold context.cache = (.frame frame, middle)) :
    ∃ first, Machine.Moment graph.host rules root threshold context first ∧
      first.view = ⟨middle, [frame], none⟩ ∧
      ∀ steps, Machine.run graph.host rules steps root threshold context =
        Machine.loop graph.host rules steps first := by
  obtain ⟨noted, hn, hcache⟩ := consult_miss (not_hit_of_enter_frame he)
  obtain ⟨later, henter, hlater⟩ := enter_of_view (hcache ▸ he)
  refine ⟨_, .start hn henter, congrArg (View.mk · _ _) hlater, fun steps => ?_⟩
  rw [Machine.run, hn]
  dsimp only
  rw [henter]

/-- The ways in which a request can begin, with what it comes to in each. -/
inductive Begins (graph : TypeGraph) (rules : List Rule) (root : TypeRef) (threshold : Level)
    (context : Context Unit) : Prop where
  | marked :
      context.cache.lookup (graph.key root) (.known threshold) = .hit .calculating →
      (∀ steps, Machine.run graph.host rules steps root threshold context =
        .error (.stillCalculating root.id)) →
      Begins graph rules root threshold context
  | hit {verdict : Verdict} :
      context.cache.lookup (graph.key root) (.known threshold) = .hit (.settled verdict) →
      (∀ steps, ∃ noted, Machine.run graph.host rules steps root threshold context =
        .ok { status := .settled verdict, cacheHit := true, context := noted } ∧
        noted.cache = context.cache) →
      Begins graph rules root threshold context
  | ready {status : Status} {final : Cache} :
      (∀ status, context.cache.lookup (graph.key root) (.known threshold) ≠ .hit status) →
      graph.enter rules root threshold context.cache = (.ready status, final) →
      (∀ steps, ∃ entered, Machine.run graph.host rules steps root threshold context =
        .ok { status, cacheHit := false, context := entered } ∧ entered.cache = final) →
      Begins graph rules root threshold context
  | frame {frame : Frame} {middle : Cache} {first : Machine Unit} :
      graph.enter rules root threshold context.cache = (.frame frame, middle) →
      Machine.Moment graph.host rules root threshold context first →
      first.view = ⟨middle, [frame], none⟩ →
      (∀ steps, Machine.run graph.host rules steps root threshold context =
        Machine.loop graph.host rules steps first) →
      Begins graph rules root threshold context

theorem begins (graph : TypeGraph) (rules : List Rule) (root : TypeRef) (threshold : Level)
    (context : Context Unit) : graph.Begins rules root threshold context := by
  by_cases hl : ∃ status, context.cache.lookup (graph.key root) (.known threshold) = .hit status
  · obtain ⟨status, hl⟩ := hl
    cases status with
    | calculating => exact .marked hl (run_marked hl)
    | settled verdict => exact .hit hl (run_hit rules hl)
  · have hmiss := not_exists.mp hl
    cases he : graph.enter rules root threshold context.cache with
    | mk entered middle =>
      cases entered with
      | ready status => exact .ready hmiss he (run_ready hmiss he)
      | frame frame =>
        obtain ⟨first, hmoment, hview, hrun⟩ := run_frame he
        exact .frame he hmoment hview hrun

/-- A run that ends does so in one step from one of its moments. -/
theorem exists_moment_of_loop {steps : Nat} {result : Machine.Answer Unit}
    (hmoment : Machine.Moment graph.host rules root threshold context machine)
    (h : Machine.loop graph.host rules steps machine = .ok result) :
    ∃ last frame verdict found, Machine.Moment graph.host rules root threshold context last ∧
      last.stack = [frame] ∧ frame.task.resume graph.host () last.answer = .done verdict ∧
      (conclusion frame.threshold frame.pending verdict).value = .settled found ∧
      result.status = .settled found ∧
      result.context.cache = graph.file frame.ref
        (conclusion frame.threshold frame.pending verdict) last.context.cache := by
  induction steps generalizing machine with
  | zero => cases h
  | succ steps ih =>
    obtain ⟨frame, below, hs⟩ := List.exists_cons_of_ne_nil (moment_stack_ne_nil hmoment)
    rw [Machine.loop] at h
    rcases step_cases graph rules hs with ⟨next, hstep, _⟩ |
      ⟨verdict, found, ended, rfl, hr, hf, hstep, hcache⟩
    · rw [hstep] at h
      exact ih (.step hmoment hstep) h
    · rw [hstep] at h
      cases h
      exact ⟨machine, frame, verdict, found, hmoment, hs, hr, hf, rfl, hcache⟩

/-- The smallest graph with a cycle and two spellings of one type: a record with a method, whose property
leads back to it through a choice that spells the record out. -/
def knot : TypeGraph where
  shape id :=
    match id.index with
    | 0 => .object .plain
    | 1 => .conditional { id := ⟨0⟩, node := some ⟨7⟩ } { id := ⟨2⟩ }
    | _ => .primitive
  properties id := if id.index = 0 then [.readonly "next" ⟨1⟩, .method "name" ⟨2⟩] else []
  callable _ := false
  isReference _ := false
  typeArguments _ := []
  indexSignature _ _ := none
  identity id := ⟨id.index⟩
  typeName ref := { evaluated := if ref.id.index = 0 then "Knot" else "Name" }
  declarationFiles _ := []
  program := { currentDirectory := "/" }

end TypeGraph

end Immutability
