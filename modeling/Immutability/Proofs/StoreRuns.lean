import Immutability.Proofs.MachineRuns
import Immutability.Proofs.StoreWalks
import Mathlib.Logic.Function.Iterate

/-!
# Runs over a store

A run over a store goes step by step like a run over a graph that reflects all the stores on its way.
Such a graph always exists, even if the run never ends: the stores form a chain, and its limit will do.
If the run ends, every graph that reflects the last store will do, since it reflects the others too. So
the machine cannot tell a store from a host without state.
-/

set_option autoImplicit false

namespace Immutability

open Store

/-! ### What can be seen of a run -/

/-- Where a step leads, without the state and the journal. -/
inductive Outlook where
  | running (view : View)
  | ended (verdict : Verdict) (cache : Cache)
  | failed (fault : Fault)

section Generic

variable {σ : Type}

def Machine.outline (machine : Machine σ) : View :=
  ⟨machine.context.cache, machine.stack, machine.answer⟩

def Progress.outlook : Progress σ → Outlook
  | running machine => .running machine.outline
  | ended verdict context => .ended verdict context.cache
  | failed fault => .failed fault

theorem Progress.cases_of_outlook {σ τ : Type} {one : Progress σ} {two : Progress τ}
    (h : one.outlook = two.outlook) :
    (∃ first second, one = .running first ∧ two = .running second ∧
      first.outline = second.outline) ∨
    (∃ verdict first second, one = .ended verdict first ∧ two = .ended verdict second ∧
      first.cache = second.cache) ∨
    ∃ fault, one = .failed fault ∧ two = .failed fault := by
  cases one <;> cases two <;> simp_all [outlook]

/-- What a request comes to: the status, whether the cache had it, and the cache it leaves. -/
def Machine.Answer.outcome (answer : Machine.Answer σ) : Status × Bool × Cache :=
  (answer.status, answer.cacheHit, answer.context.cache)

namespace Machine

/-- The machine after one more step. A machine that has come to its end stays as it is. -/
def advance (host : Host σ) (rules : List Rule) (machine : Machine σ) : Machine σ :=
  match machine.step host rules with
  | .running next => next
  | _ => machine

/-- The machine that a request begins with. Its stack is empty if no walk has to be made. -/
def opening (host : Host σ) (rules : List Rule) (root : TypeRef) (threshold : Level)
    (context : Context σ) : Machine σ :=
  match context.consult host root threshold with
  | (some _, context) => { context, stack := [] }
  | (none, context) =>
    match enter host rules root threshold context with
    | (.ready _, context) => { context, stack := [] }
    | (.frame frame, context) => push { context, stack := [] } frame

variable {host : Host σ} {rules : List Rule} {machine : Machine σ}

theorem advance_running {next : Machine σ} (h : machine.step host rules = .running next) :
    machine.advance host rules = next := by
  rw [advance, h]

theorem advance_ended {verdict : Verdict} {context : Context σ}
    (h : machine.step host rules = .ended verdict context) : machine.advance host rules = machine := by
  rw [advance, h]

theorem advance_nil (host : Host σ) (rules : List Rule) (h : machine.stack = []) :
    machine.advance host rules = machine := by
  rw [advance, step, h]

/-- Taking a frame off leaves the state alone, and what comes of it does not depend on the host. -/
theorem resolve_spec (host : Host σ) (frame : Frame) (rest : List Frame) (verdict : Verdict)
    (context : Context σ) :
    ∃ found ended, (conclusion frame.threshold frame.pending verdict).value = .settled found ∧
      ended.state = context.state ∧
      ended.cache = context.cache.record frame.ref (host.identity context.state frame.ref.id)
        (conclusion frame.threshold frame.pending verdict) ∧
      resolve host frame rest verdict context =
        match rest with
        | [] => .ended found ended
        | rest => .running { context := ended, stack := rest, answer := some found } := by
  obtain ⟨found, hfound⟩ := conclusion_settled frame.threshold frame.pending verdict
  obtain ⟨ended, hended, hstate, hcache⟩ := conclude_spec host frame.ref frame.threshold frame.pending
    verdict (context.note fun _ => .frameResolved frame.ref.id rest.length verdict)
  refine ⟨found, ended, hfound, hstate, hcache, ?_⟩
  unfold resolve
  dsimp only
  rw [hended, hfound]
  cases rest <;> rfl

theorem state_of_ended {verdict : Verdict} {context : Context σ}
    (h : machine.step host rules = .ended verdict context) : context.state = machine.context.state := by
  unfold step at h
  split at h
  · cases h
    rfl
  · next frame rest _ =>
    split at h
    · cases h
    · next verdict _ =>
      obtain ⟨found, ended, _, hstate, _, hresolve⟩ :=
        resolve_spec host frame rest verdict machine.context
      rw [hresolve] at h
      split at h <;> cases h
      exact hstate

/-- Machines of which every step leads to the same come to the same in the end. -/
theorem outcome_loop_of_steps {τ : Type} {one : Host σ} {two : Host τ}
    (related : Machine σ → Machine τ → Prop)
    (hstep : ∀ {machine twin}, related machine twin →
      (twin.step two rules).outlook = (machine.step one rules).outlook)
    (hnext : ∀ {machine twin next after}, related machine twin → machine.step one rules = .running next →
      twin.step two rules = .running after → after.outline = next.outline → related next after)
    {twin : Machine τ} (h : related machine twin) (steps : Nat) :
    (loop two rules steps twin).map Answer.outcome =
      (loop one rules steps machine).map Answer.outcome := by
  induction steps generalizing machine twin with
  | zero => rfl
  | succ steps ih =>
    rw [loop, loop]
    rcases Progress.cases_of_outlook (hstep h) with
      ⟨after, next, ht, hs, hsame⟩ | ⟨verdict, last, ended, ht, hs, hsame⟩ | ⟨fault, ht, hs⟩
    · rw [ht, hs]
      exact ih (hnext h hs ht hsame)
    · rw [ht, hs]
      exact congrArg (fun cache => Except.ok (_, _, cache)) hsame
    · rw [ht, hs]
      rfl

end Machine

end Generic

/-! ### Steps -/

variable {graph : TypeGraph} {identity : TypeId → Identity} {rules : List Rule}
  {machine : Machine Store} {context : Context Store} {root child : TypeRef} {threshold : Level}

/-- All types of a machine are allocated in a store that is whole. -/
structure Machine.Sited (machine : Machine Store) : Prop where
  whole : machine.context.state.Whole
  frames : ∀ frame ∈ machine.stack, frame.task.Sited machine.context.state

theorem Machine.Sited.after (h : machine.Sited) (hgains : Gains machine.context.state context.state)
    {stack : List Frame} (hstack : ∀ frame ∈ stack, frame.task.Sited machine.context.state)
    (answer : Option Verdict) : Machine.Sited { context, stack, answer } where
  whole := Gains.whole hgains h.whole
  frames frame hframe := (hstack frame hframe).of_extends (Gains.extends hgains)

namespace Machine

/-- The next machine is over a store that gained types at most, and over a graph that reflects it the
same step is made. -/
structure Advances (identity : TypeId → Identity) (rules : List Rule) (machine : Machine Store) :
    Prop where
  gains : Gains machine.context.state (machine.advance (hostWith identity) rules).context.state
  sited : (machine.advance (hostWith identity) rules).Sited
  outlook : ∀ graph : TypeGraph,
    graph.Reflects identity (machine.advance (hostWith identity) rules).context.state →
    ∀ twin : Machine Unit, twin.outline = machine.outline →
      (twin.step graph.host rules).outlook = (machine.step (hostWith identity) rules).outlook

theorem ask_advances (identity : TypeId → Identity) (rules : List Rule) (threshold : Level)
    {stack : List Frame} (hwhole : context.state.Whole)
    (hstack : ∀ frame ∈ stack, frame.task.Sited context.state)
    (hchild : context.state.Allocated child.id) :
    let next := ask (hostWith identity) rules child threshold { context, stack }
    Gains context.state next.context.state ∧ next.Sited ∧
    ∀ graph : TypeGraph, graph.Reflects identity next.context.state →
      ∀ twin : Context Unit, twin.cache = context.cache →
        (ask graph.host rules child threshold { context := twin, stack }).outline = next.outline := by
  have henter := enter_reflected identity rules context child threshold hwhole hchild
  cases he : enter (hostWith identity) rules child threshold context with
  | mk entered later =>
    rw [he] at henter
    have hextends := Gains.extends henter.gains
    have hkept : ∀ frame ∈ stack, frame.task.Sited later.state :=
      fun frame hframe => (hstack frame hframe).of_extends hextends
    cases entered with
    | ready status =>
      simp only [ask, he]
      refine ⟨henter.gains, ⟨Gains.whole henter.gains hwhole, hkept⟩, fun graph h twin hcache => ?_⟩
      have hgraph := henter.reflected graph h
      rw [← hcache] at hgraph
      exact TypeGraph.ask_ready hgraph
    | frame begun =>
      simp only [ask, he]
      refine ⟨henter.gains, ⟨Gains.whole henter.gains hwhole, ?_⟩, fun graph h twin hcache => ?_⟩
      · exact List.forall_mem_cons.mpr ⟨henter.sited, hkept⟩
      · have hgraph := henter.reflected graph h
        rw [← hcache] at hgraph
        exact TypeGraph.ask_frame hgraph

theorem advances_nil (h : machine.Sited) (hstack : machine.stack = []) :
    machine.Advances identity rules := by
  have hadvance := advance_nil (hostWith identity) rules hstack
  refine ⟨by rw [hadvance], by rwa [hadvance], fun graph _ twin htwin => ?_⟩
  obtain ⟨hcache, hstacks, hanswer⟩ := View.mk.injEq .. ▸ htwin
  rw [step, step, hstacks, hstack, hanswer]
  exact congrArg (Outlook.ended _) hcache

theorem advances_await {frame : Frame} {below : List Frame} {task : Task} (h : machine.Sited)
    (hstack : machine.stack = frame :: below)
    (hr : frame.task.resume (hostWith identity) machine.context.state machine.answer =
      .await child task) : machine.Advances identity rules := by
  obtain ⟨hframe, hbelow⟩ := List.forall_mem_cons.mp (hstack ▸ h.frames)
  have hchild : machine.context.state.Allocated child.id ∧ task.Sited machine.context.state := by
    obtain ⟨other, hother⟩ := h.whole.exists_reflects identity
    exact (Task.sited_resume hother h.whole hframe machine.answer).among child task hr
  have hkept : ∀ inner ∈ { frame with task } :: below, inner.task.Sited machine.context.state :=
    List.forall_mem_cons.mpr ⟨hchild.2, hbelow⟩
  obtain ⟨hgains, hsited, hask⟩ := ask_advances identity rules frame.threshold h.whole hkept hchild.1
  have hstep : machine.step (hostWith identity) rules = .running (ask (hostWith identity) rules child
      frame.threshold { machine with stack := { frame with task } :: below, answer := none }) := by
    rw [step, hstack]
    dsimp only
    rw [hr]
  have hadvance := advance_running hstep
  refine ⟨by rwa [hadvance], by rwa [hadvance], fun graph hgraph twin htwin => ?_⟩
  rw [hadvance] at hgraph
  obtain ⟨hcache, hstacks, hanswer⟩ := View.mk.injEq .. ▸ htwin
  have hsame := Task.sited_resume (hgraph.of_gains hgains h.whole) h.whole hframe machine.answer
  have hresumed : frame.task.resume graph.host () twin.answer = .await child task :=
    hanswer ▸ hsame.same.trans hr
  rw [hstep, TypeGraph.step_await (hstacks.trans hstack) hresumed]
  exact congrArg Outlook.running (hask graph hgraph twin.context hcache)

theorem advances_done {frame : Frame} {below : List Frame} {verdict : Verdict} (h : machine.Sited)
    (hstack : machine.stack = frame :: below)
    (hr : frame.task.resume (hostWith identity) machine.context.state machine.answer =
      .done verdict) : machine.Advances identity rules := by
  obtain ⟨hframe, hbelow⟩ := List.forall_mem_cons.mp (hstack ▸ h.frames)
  obtain ⟨found, ended, hfound, hstate, hcache, hresolve⟩ :=
    resolve_spec (hostWith identity) frame below verdict machine.context
  have hstep : machine.step (hostWith identity) rules =
      resolve (hostWith identity) frame below verdict machine.context := by
    rw [step, hstack]
    dsimp only
    rw [hr]
  rw [hresolve] at hstep
  have hadvance : (machine.advance (hostWith identity) rules).context.state =
      machine.context.state ∧ (machine.advance (hostWith identity) rules).Sited := by
    cases below with
    | nil =>
      rw [advance_ended hstep]
      exact ⟨rfl, h⟩
    | cons outer below =>
      rw [advance_running hstep]
      exact ⟨hstate, h.after (hstate ▸ .refl) hbelow _⟩
  refine ⟨by rw [hadvance.1], hadvance.2, fun graph hgraph twin htwin => ?_⟩
  -- the twin resumes the same task, so it ends the same frame and files the same entry
  rw [hadvance.1] at hgraph
  obtain ⟨hcaches, hstacks, hanswer⟩ := View.mk.injEq .. ▸ htwin
  have hsame := Task.sited_resume hgraph h.whole hframe machine.answer
  have hresumed : frame.task.resume graph.host () twin.answer = .done verdict :=
    hanswer ▸ hsame.same.trans hr
  have htwinStep : twin.step graph.host rules = _ :=
    TypeGraph.step_done (hstacks.trans hstack) hresumed
  obtain ⟨other, last, hother, _, hlast, htwinResolve⟩ :=
    resolve_spec graph.host frame below verdict twin.context
  have hrecorded : last.cache = ended.cache := by
    rw [hlast, hcache, ← hcaches]
    exact congrArg (fun identity => twin.context.cache.record frame.ref (identity frame.ref.id) _)
      hgraph.identity
  cases hfound.symm.trans hother
  rw [hstep, htwinStep, htwinResolve]
  cases below with
  | nil => exact congrArg (Outlook.ended found) hrecorded
  | cons outer below => exact congrArg (fun cache => Outlook.running ⟨cache, _, _⟩) hrecorded

theorem Sited.advances (h : machine.Sited) : machine.Advances identity rules := by
  cases hstack : machine.stack with
  | nil => exact advances_nil h hstack
  | cons frame below =>
    cases hr : frame.task.resume (hostWith identity) machine.context.state machine.answer with
    | await child task => exact advances_await h hstack hr
    | done verdict => exact advances_done h hstack hr

/-! ### Runs -/

theorem Sited.iterate (h : machine.Sited) (number : Nat) :
    ((advance (hostWith identity) rules)^[number] machine).Sited := by
  induction number generalizing machine with
  | zero => exact h
  | succ number ih => exact ih h.advances.sited

theorem Sited.gains_iterate (h : machine.Sited) (number : Nat) :
    Gains ((advance (hostWith identity) rules)^[number] machine).context.state
      ((advance (hostWith identity) rules)^[number + 1] machine).context.state := by
  rw [Function.iterate_succ_apply']
  exact (h.iterate number).advances.gains

/-- Over a graph that reflects all stores on the way the machine comes to the same. -/
theorem outcome_loop (h : machine.Sited)
    (hgraph : ∀ number, graph.Reflects identity
      ((advance (hostWith identity) rules)^[number] machine).context.state)
    {twin : Machine Unit} (htwin : twin.outline = machine.outline) (steps : Nat) :
    (loop graph.host rules steps twin).map Answer.outcome =
      (loop (hostWith identity) rules steps machine).map Answer.outcome := by
  let related := fun (machine : Machine Store) (twin : Machine Unit) =>
    machine.Sited ∧ twin.outline = machine.outline ∧ ∀ number, graph.Reflects identity
      ((advance (hostWith identity) rules)^[number] machine).context.state
  refine outcome_loop_of_steps related ?_ ?_ ⟨h, htwin, hgraph⟩ steps
  · rintro machine twin ⟨hsited, htwin, hgraph⟩
    exact hsited.advances.outlook graph (hgraph 1) twin htwin
  · rintro machine twin next after ⟨hsited, _, hgraph⟩ hs _ hsame
    have hadvance := advance_running hs
    have hadvances : machine.Advances identity rules := hsited.advances
    refine ⟨hadvance ▸ hadvances.sited, hsame, fun number => ?_⟩
    have hlater := hgraph (number + 1)
    rwa [Function.iterate_succ_apply, hadvance] at hlater

/-- All stores on the way to an answer gain up to the last one. -/
theorem gains_of_loop (h : machine.Sited) {steps : Nat} {answer : Answer Store}
    (hloop : loop (hostWith identity) rules steps machine = .ok answer) (number : Nat) :
    Gains ((advance (hostWith identity) rules)^[number] machine).context.state
      answer.context.state := by
  induction steps generalizing machine number with
  | zero => cases hloop
  | succ steps ih =>
    have hadvances : machine.Advances identity rules := h.advances
    rw [loop] at hloop
    cases hs : machine.step (hostWith identity) rules with
    | running next =>
      rw [hs] at hloop
      rw [← advance_running hs] at hloop
      have hrest := ih hadvances.sited hloop
      cases number with
      | zero => exact hadvances.gains.trans (hrest 0)
      | succ number => exact hrest number
    | ended verdict context =>
      rw [hs] at hloop
      cases hloop
      rw [Function.iterate_fixed (advance_ended hs), state_of_ended hs]
    | failed fault =>
      rw [hs] at hloop
      cases hloop

theorem consult_cases {σ : Type} (host : Host σ) (root : TypeRef) (threshold : Level)
    (context : Context σ) :
    ∃ noted : Context σ, noted.state = context.state ∧ noted.cache = context.cache ∧
      ((∃ status, context.cache.lookup (context.key host root) (.known threshold) = .hit status ∧
          context.consult host root threshold = (some status, noted)) ∨
        (∀ status, context.cache.lookup (context.key host root) (.known threshold) ≠ .hit status) ∧
          context.consult host root threshold = (none, noted)) := by
  unfold Context.consult
  dsimp only
  cases context.cache.lookup (context.key host root) (.known threshold) with
  | absent => exact ⟨context, rfl, rfl, .inr ⟨nofun, rfl⟩⟩
  | below value =>
    refine ⟨context.note fun _ => .cacheBelow (context.key host root) value, rfl, rfl, ?_⟩
    exact .inr ⟨nofun, rfl⟩
  | hit value =>
    refine ⟨context.note fun _ => .cacheHit (context.key host root) value, rfl, rfl, ?_⟩
    exact .inl ⟨value, rfl, rfl⟩

/-- How a request begins over a store and how it goes on: with a mark in the cache, a hit, a status that
is known at once, or a walk. -/
inductive Opens (identity : TypeId → Identity) (rules : List Rule) (root : TypeRef)
    (threshold : Level) (context : Context Store) : Prop where
  | marked {noted : Context Store} :
      context.cache.lookup (context.key (hostWith identity) root) (.known threshold) =
        .hit .calculating → noted.state = context.state →
      opening (hostWith identity) rules root threshold context = { context := noted, stack := [] } →
      (∀ steps, run (hostWith identity) rules steps root threshold context =
        .error (.stillCalculating root.id)) →
      Opens identity rules root threshold context
  | hit {verdict : Verdict} {noted : Context Store} :
      context.cache.lookup (context.key (hostWith identity) root) (.known threshold) =
        .hit (.settled verdict) → noted.state = context.state → noted.cache = context.cache →
      opening (hostWith identity) rules root threshold context = { context := noted, stack := [] } →
      (∀ steps, run (hostWith identity) rules steps root threshold context =
        .ok { status := .settled verdict, cacheHit := true, context := noted }) →
      Opens identity rules root threshold context
  | ready {status : Status} {noted later : Context Store} :
      (∀ status, context.cache.lookup (context.key (hostWith identity) root) (.known threshold) ≠
        .hit status) → noted.state = context.state → noted.cache = context.cache →
      enter (hostWith identity) rules root threshold noted = (.ready status, later) →
      opening (hostWith identity) rules root threshold context = { context := later, stack := [] } →
      (∀ steps, run (hostWith identity) rules steps root threshold context =
        .ok { status, cacheHit := false, context := later }) →
      Opens identity rules root threshold context
  | frame {frame : Frame} {noted later : Context Store} :
      (∀ status, context.cache.lookup (context.key (hostWith identity) root) (.known threshold) ≠
        .hit status) → noted.state = context.state → noted.cache = context.cache →
      enter (hostWith identity) rules root threshold noted = (.frame frame, later) →
      opening (hostWith identity) rules root threshold context =
        push { context := later, stack := [] } frame →
      (∀ steps, run (hostWith identity) rules steps root threshold context =
        loop (hostWith identity) rules steps
          (opening (hostWith identity) rules root threshold context)) →
      Opens identity rules root threshold context

theorem opens (identity : TypeId → Identity) (rules : List Rule) (root : TypeRef) (threshold : Level)
    (context : Context Store) : Opens identity rules root threshold context := by
  obtain ⟨noted, hstate, hcache, ⟨status, hl, hconsult⟩ | ⟨hmiss, hconsult⟩⟩ :=
    consult_cases (hostWith identity) root threshold context
  · have hopening : opening (hostWith identity) rules root threshold context =
        { context := noted, stack := [] } := by
      rw [opening, hconsult]
    cases status with
    | calculating =>
      refine .marked hl hstate hopening fun steps => ?_
      rw [run, hconsult]
    | settled verdict =>
      refine .hit hl hstate hcache hopening fun steps => ?_
      rw [run, hconsult]
  · cases he : enter (hostWith identity) rules root threshold noted with
    | mk entered later =>
      cases entered with
      | ready status =>
        refine .ready hmiss hstate hcache he ?_ fun steps => ?_
        · simp only [opening, hconsult, he]
        · simp only [run, hconsult, he]
      | frame frame =>
        refine .frame hmiss hstate hcache he ?_ fun steps => ?_
        · simp only [opening, hconsult, he]
        · simp only [run, opening, hconsult, he]

theorem sited_opening (identity : TypeId → Identity) (rules : List Rule) (context : Context Store)
    (root : TypeRef) (threshold : Level) (hwhole : context.state.Whole)
    (hroot : context.state.Allocated root.id) :
    (opening (hostWith identity) rules root threshold context).Sited ∧
    Gains context.state (opening (hostWith identity) rules root threshold context).context.state := by
  have hidle : ∀ {later : Context Store}, Gains context.state later.state →
      Machine.Sited { context := later, stack := [] } :=
    fun hgains => ⟨Gains.whole hgains hwhole, by simp⟩
  cases opens identity rules root threshold context with
  | @marked noted _ hstate hopening _ =>
    have hgains : Gains context.state noted.state := hstate ▸ .refl
    exact hopening ▸ ⟨hidle hgains, hgains⟩
  | @hit verdict noted _ hstate _ hopening _ =>
    have hgains : Gains context.state noted.state := hstate ▸ .refl
    exact hopening ▸ ⟨hidle hgains, hgains⟩
  | @ready status noted later _ hstate hcache he hopening _ =>
    have henter := enter_reflected identity rules noted root threshold (hstate ▸ hwhole) (hstate ▸ hroot)
    rw [he, hstate] at henter
    exact hopening ▸ ⟨hidle henter.gains, henter.gains⟩
  | @frame frame noted later _ hstate hcache he hopening _ =>
    have henter := enter_reflected identity rules noted root threshold (hstate ▸ hwhole) (hstate ▸ hroot)
    rw [he, hstate] at henter
    rw [hopening]
    refine ⟨⟨Gains.whole henter.gains hwhole, ?_⟩, henter.gains⟩
    intro other hother
    cases List.mem_singleton.mp hother
    exact henter.sited

/-- The stores that a request passes through, one after each step. -/
def trail (identity : TypeId → Identity) (rules : List Rule) (root : TypeRef) (threshold : Level)
    (context : Context Store) (number : Nat) : Store :=
  ((advance (hostWith identity) rules)^[number]
    (opening (hostWith identity) rules root threshold context)).context.state

theorem trail_of_nil (h : (opening (hostWith identity) rules root threshold context).stack = [])
    (number : Nat) : trail identity rules root threshold context number =
      (opening (hostWith identity) rules root threshold context).context.state := by
  rw [trail, Function.iterate_fixed (advance_nil _ _ h)]

/-- A request comes to the same over a graph that reflects all the stores it passes through. -/
theorem outcome_run (identity : TypeId → Identity) (rules : List Rule) (threshold : Level)
    (hwhole : context.state.Whole) (hroot : context.state.Allocated root.id)
    (hgraph : ∀ number, graph.Reflects identity (trail identity rules root threshold context number))
    {twin : Context Unit} (htwin : twin.cache = context.cache) (steps : Nat) :
    (run graph.host rules steps root threshold twin).map Answer.outcome =
      (run (hostWith identity) rules steps root threshold context).map Answer.outcome := by
  have hkey : graph.key root = context.key (hostWith identity) root := by
    rw [TypeGraph.key, (hgraph 0).identity]
    rfl
  have hsited := (sited_opening identity rules context root threshold hwhole hroot).1
  cases opens identity rules root threshold context with
  | marked hl _ _ hrun =>
    rw [← htwin, ← hkey] at hl
    rw [hrun, TypeGraph.run_marked hl]
    rfl
  | hit hl _ hcache _ hrun =>
    rw [← htwin, ← hkey] at hl
    obtain ⟨noted, htwinRun, hnoted⟩ := TypeGraph.run_hit rules hl steps
    rw [hrun, htwinRun]
    exact congrArg (fun cache => Except.ok (_, _, cache)) (hnoted.trans (htwin.trans hcache.symm))
  | @ready status noted later hmiss hstate hcache he hopening hrun =>
    rw [← htwin, ← hkey] at hmiss
    have henter := enter_reflected identity rules noted root threshold (hstate ▸ hwhole) (hstate ▸ hroot)
    have hnow := hgraph 0
    rw [trail, Function.iterate_zero, id_eq, hopening] at hnow
    rw [he, hcache, ← htwin] at henter
    obtain ⟨entered, htwinRun, hentered⟩ :=
      TypeGraph.run_ready hmiss (henter.reflected graph hnow) steps
    rw [hrun, htwinRun]
    exact congrArg (fun cache => Except.ok (_, _, cache)) hentered
  | @frame frame noted later hmiss hstate hcache he hopening hrun =>
    -- entering lists properties already, so the graph has to know the store that comes after it
    have henter := enter_reflected identity rules noted root threshold (hstate ▸ hwhole) (hstate ▸ hroot)
    have hnow := hgraph 0
    rw [trail, Function.iterate_zero, id_eq, hopening] at hnow
    rw [he, hcache, ← htwin] at henter
    obtain ⟨first, _, hview, htwinRun⟩ := TypeGraph.run_frame (henter.reflected graph hnow)
    rw [hrun, htwinRun]
    refine outcome_loop hsited hgraph ?_ steps
    rw [hopening]
    exact hview

/-- The stores that a request passes through gain up to the one it leaves. -/
theorem gains_of_run (hwhole : context.state.Whole) (hroot : context.state.Allocated root.id)
    {steps : Nat} {answer : Answer Store}
    (h : run (hostWith identity) rules steps root threshold context = .ok answer) (number : Nat) :
    Gains (trail identity rules root threshold context number) answer.context.state := by
  have hsited := (sited_opening identity rules context root threshold hwhole hroot).1
  cases opens identity rules root threshold context with
  | marked _ _ _ hrun =>
    rw [hrun] at h
    cases h
  | hit _ _ _ hopening hrun =>
    rw [hrun] at h
    cases h
    rw [trail_of_nil (by rw [hopening]), hopening]
  | ready _ _ _ _ hopening hrun =>
    rw [hrun] at h
    cases h
    rw [trail_of_nil (by rw [hopening]), hopening]
  | frame _ _ _ _ _ hrun =>
    rw [hrun] at h
    exact gains_of_loop hsited h number

/-- There is a graph that reflects the store and on which a request comes to the same, no matter how
many steps it may take. -/
theorem exists_reflecting (hwhole : context.state.Whole) (hroot : context.state.Allocated root.id) :
    ∃ graph : TypeGraph, graph.Reflects identity context.state ∧
      ∀ (twin : Context Unit), twin.cache = context.cache → ∀ steps,
        (run graph.host rules steps root threshold twin).map Answer.outcome =
          (run (hostWith identity) rules steps root threshold context).map Answer.outcome := by
  obtain ⟨hsited, hgains⟩ := sited_opening identity rules context root threshold hwhole hroot
  let chain : Chain := ⟨trail identity rules root threshold context, hsited.whole, hsited.gains_iterate⟩
  refine ⟨chain.limit identity, (chain.reflects_limit identity 0).of_gains hgains hwhole, ?_⟩
  intro twin htwin steps
  exact outcome_run identity rules threshold hwhole hroot (chain.reflects_limit identity) htwin steps

theorem exists_ok_of_outcome {σ τ : Type} {one : Except Fault (Answer σ)}
    {two : Except Fault (Answer τ)} (hsame : one.map Answer.outcome = two.map Answer.outcome)
    {answer : Answer σ} (h : one = .ok answer) :
    ∃ other, two = .ok other ∧ other.outcome = answer.outcome := by
  subst h
  cases two with
  | error fault => cases hsame
  | ok other => exact ⟨other, rfl, (Except.ok.inj hsame).symm⟩

theorem error_of_outcome {σ τ : Type} {one : Except Fault (Answer σ)} {two : Except Fault (Answer τ)}
    (hsame : one.map Answer.outcome = two.map Answer.outcome) {fault : Fault} (h : one = .error fault) :
    two = .error fault := by
  subst h
  cases two with
  | error other => exact congrArg Except.error (Except.error.inj hsame).symm
  | ok other => cases hsame

/-- A request that ends comes to the same on every graph that reflects the store it leaves. -/
theorem outcome_of_run (hwhole : context.state.Whole) (hroot : context.state.Allocated root.id)
    {steps : Nat} {answer : Answer Store}
    (h : run (hostWith identity) rules steps root threshold context = .ok answer)
    (hgraph : graph.Reflects identity answer.context.state) {twin : Context Unit}
    (htwin : twin.cache = context.cache) :
    ∃ other, run graph.host rules steps root threshold twin = .ok other ∧
      other.outcome = answer.outcome := by
  have hsited := (sited_opening identity rules context root threshold hwhole hroot).1
  have hsame := outcome_run identity rules threshold hwhole hroot (fun number =>
    hgraph.of_gains (gains_of_run hwhole hroot h number) (hsited.iterate number).whole) htwin steps
  exact exists_ok_of_outcome hsame.symm h

theorem gains_of_ok (hwhole : context.state.Whole) (hroot : context.state.Allocated root.id)
    {steps : Nat} {answer : Answer Store}
    (h : run (hostWith identity) rules steps root threshold context = .ok answer) :
    Gains context.state answer.context.state :=
  (sited_opening identity rules context root threshold hwhole hroot).2.trans
    (gains_of_run hwhole hroot h 0)

end Machine

end Immutability
