import Immutability.Proofs.MachineRuns

/-!
# The machine and the recursive evaluation agree

The stack stands for the calls that a recursive evaluation would have open. Whatever lies below a child
is left alone until the child is done, so the evaluation of a child is a run of the machine above the
frame that asked for it. This gives runs from evaluations. For the way back, a run that ends is cut at
the moments where a child's frame is taken off, and the pieces are shorter runs.
-/

set_option autoImplicit false

namespace Immutability.TypeGraph

open Relation (ReflTransGen TransGen)

variable (graph : TypeGraph) (rules : List Rule)

/-- A frame that asks for the child is answered with its status, on the same stack. -/
def AnswersChild (child : TypeRef) (threshold : Level) (cache : Cache) (status : Status)
    (final : Cache) : Prop :=
  ∀ (frame : Frame) (below : List Frame) (answer : Option Verdict) (task : Task),
    frame.threshold = threshold → frame.task.resume graph.host () answer = .await child task →
    TransGen (graph.Leads rules) ⟨cache, frame :: below, answer⟩
      ⟨final, { frame with task } :: below, some status.settle⟩

/-- A frame with this walk gets to the point where the walk is done, on the same stack. -/
def FinishesWalk (threshold : Level) (task : Task) (answer : Option Verdict) (cache : Cache)
    (verdict : Verdict) (final : Cache) : Prop :=
  ∀ (frame : Frame) (below : List Frame), frame.threshold = threshold → frame.task = task →
    ∃ last lastAnswer, last.resume graph.host () lastAnswer = .done verdict ∧
      ReflTransGen (graph.Leads rules) ⟨cache, frame :: below, answer⟩
        ⟨final, { frame with task := last } :: below, lastAnswer⟩

variable {graph rules} {cache middle final : Cache} {frame inner : Frame} {below : List Frame}
  {answer : Option Verdict} {child : TypeRef} {task : Task} {verdict : Verdict}

/-- The moves for a child with a frame of its own: the frame goes on top, its walk is finished there,
and its verdict is filed and handed down. -/
theorem leads_of_frame (hr : frame.task.resume graph.host () answer = .await child task)
    (he : graph.enter rules child frame.threshold cache = (.frame inner, middle))
    (hwalk : graph.FinishesWalk rules inner.threshold inner.task none middle verdict final) :
    TransGen (graph.Leads rules) ⟨cache, frame :: below, answer⟩
      ⟨graph.file inner.ref (conclusion inner.threshold inner.pending verdict) final,
        { frame with task } :: below,
        some (conclusion inner.threshold inner.pending verdict).value.settle⟩ := by
  obtain ⟨last, lastAnswer, hdone, hrun⟩ := hwalk inner ({ frame with task } :: below) rfl rfl
  obtain ⟨found, hf⟩ := conclusion_settled inner.threshold inner.pending verdict
  have hpop : graph.Leads rules
      ⟨final, { inner with task := last } :: { frame with task } :: below, lastAnswer⟩
      ⟨graph.file inner.ref (conclusion inner.threshold inner.pending verdict) final,
        { frame with task } :: below, some found⟩ := .resolved hdone hf
  rw [hf]
  exact .head' (.pushed hr he) (hrun.tail hpop)

theorem leads_of_evaluates (graph : TypeGraph) (rules : List Rule) :
    (∀ {ref threshold cache status final},
      graph.Evaluates rules ref threshold cache status final →
      graph.AnswersChild rules ref threshold cache status final) ∧
    (∀ {threshold task answer cache verdict final},
      graph.Follows rules threshold task answer cache verdict final →
      graph.FinishesWalk rules threshold task answer cache verdict final) := by
  apply evaluates_induction (graph.AnswersChild rules) (graph.FinishesWalk rules)
  case ready =>
    intro child threshold cache status final he frame below answer task ht hr
    subst ht
    exact .single (.answered hr he)
  case frame =>
    intro child threshold cache middle final verdict inner he hwalk frame below answer task ht hr
    subst ht
    exact leads_of_frame hr he hwalk
  case done =>
    intro threshold task answer cache verdict hr frame below ht htask
    subst htask
    exact ⟨frame.task, answer, hr, .refl⟩
  case await =>
    intro threshold task answer cache middle final child rest status verdict hr hchild hrest
      frame below ht htask
    subst htask
    obtain ⟨last, lastAnswer, hdone, hrun⟩ := hrest { frame with task := rest } below ht rfl
    exact ⟨last, lastAnswer, hdone, (hchild frame below answer rest ht hr).to_reflTransGen.trans hrun⟩

/-- Runs that end are evaluations: the walk of the innermost frame can be followed. -/
theorem follows_of_loop {steps : Nat} {machine : Machine Unit} {result : Machine.Answer Unit}
    (hv : machine.view = ⟨cache, frame :: below, answer⟩)
    (h : Machine.loop graph.host rules steps machine = .ok result) :
    ∃ verdict final,
      graph.Follows rules frame.threshold frame.task answer cache verdict final := by
  -- The induction is on the steps that are left. A child with a frame of its own is evaluated by the
  -- hypothesis for its frame, and its evaluation then tells where the run comes back to this frame.
  induction steps using Nat.strongRecOn generalizing machine cache frame below answer with
  | ind steps ih =>
    cases hr : frame.task.resume graph.host () answer with
    | done verdict => exact ⟨verdict, cache, .of_done hr⟩
    | await child task =>
      have hchild : ∃ status middle,
          graph.Evaluates rules child frame.threshold cache status middle := by
        cases he : graph.enter rules child frame.threshold cache with
        | mk entered middle =>
          cases entered with
          | ready status => exact ⟨status, middle, .of_ready he⟩
          | frame inner =>
            have hpush : graph.Leads rules machine.view
                ⟨middle, inner :: { frame with task } :: below, none⟩ := hv ▸ .pushed hr he
            obtain ⟨left, last, hlt, hloop, hview⟩ := loop_of_leads h (.single hpush)
            obtain ⟨verdict, walked, hwalk⟩ := ih left hlt hview hloop
            exact ⟨_, _, .of_frame he hwalk⟩
      obtain ⟨status, middle, hchild⟩ := hchild
      have hrun := (leads_of_evaluates graph rules).1 hchild frame below answer task rfl hr
      rw [← hv] at hrun
      obtain ⟨left, last, hlt, hloop, hview⟩ := loop_of_leads h hrun
      obtain ⟨verdict, final, hrest⟩ := ih left hlt hview hloop
      exact ⟨verdict, final, .of_await hr hchild hrest⟩

/-- A walk that can be followed in the last frame of the stack ends the run with its conclusion. -/
theorem loop_of_follows {machine : Machine Unit} (hv : machine.view = ⟨cache, [frame], answer⟩)
    (h : graph.Follows rules frame.threshold frame.task answer cache verdict final) :
    ∃ steps ended, Machine.loop graph.host rules steps machine =
      .ok { status := (conclusion frame.threshold frame.pending verdict).value,
            cacheHit := false, context := ended } ∧
      ended.cache = graph.file frame.ref (conclusion frame.threshold frame.pending verdict)
        final := by
  obtain ⟨last, lastAnswer, hdone, hrun⟩ :=
    (leads_of_evaluates graph rules).2 h frame [] rfl rfl
  rw [← hv] at hrun
  obtain ⟨steps, machine', hafter, hview⟩ := after_of_leads hrun
  obtain ⟨hcache, hstack, hanswer⟩ := View.mk.injEq .. ▸ hview
  obtain ⟨found, hf⟩ := conclusion_settled frame.threshold frame.pending verdict
  obtain ⟨ended, hresolve, hended⟩ := resolve_nil graph machine'.context hf
  subst hcache hanswer
  have hstep : machine'.step graph.host rules = .ended found ended :=
    (step_done hstack hdone).trans hresolve
  refine ⟨steps + 1, ended, ?_, hended⟩
  rw [Machine.loop_add_of_after hafter 1, Machine.loop, hstep, hf]

variable {root : TypeRef} {threshold : Level} {context : Context Unit} {status : Status}

theorem evaluates_of_run {steps : Nat} {result : Machine.Answer Unit}
    (h : Machine.run graph.host rules steps root threshold context = .ok result) :
    graph.Evaluates rules root threshold context.cache result.status result.context.cache := by
  cases begins graph rules root threshold context with
  | marked _ hrun =>
    rw [hrun] at h
    cases h
  | hit hl hrun =>
    obtain ⟨noted, hrun, hcache⟩ := hrun steps
    rw [hrun] at h
    cases h
    rw [hcache]
    exact .of_ready (graph.enter_hit rules hl)
  | ready _ he hrun =>
    obtain ⟨entered, hrun, hcache⟩ := hrun steps
    rw [hrun] at h
    cases h
    rw [hcache]
    exact .of_ready he
  | frame he _ hview hrun =>
    rw [hrun] at h
    obtain ⟨verdict, final, hwalk⟩ := follows_of_loop hview h
    obtain ⟨others, ended, hloop, hcache⟩ := loop_of_follows hview hwalk
    cases Machine.loop_unique h hloop
    rw [hcache]
    exact .of_frame he hwalk

theorem run_of_evaluates
    (hroot : ∀ entry, context.cache.get? (graph.key root) = some entry → entry.value ≠ .calculating)
    (h : graph.Evaluates rules root threshold context.cache status final) :
    ∃ steps result, Machine.run graph.host rules steps root threshold context = .ok result ∧
      result.status = status ∧ result.context.cache = final := by
  cases begins graph rules root threshold context with
  | marked hl _ =>
    obtain ⟨entry, hentry, _, hvalue⟩ := Cache.lookup_eq_hit_iff.mp hl
    exact absurd hvalue (hroot entry hentry)
  | hit hl hrun =>
    obtain ⟨rfl, rfl⟩ := h.eq_of_ready (graph.enter_hit rules hl)
    obtain ⟨noted, hrun, hcache⟩ := hrun 0
    exact ⟨0, _, hrun, rfl, hcache⟩
  | ready _ he hrun =>
    obtain ⟨rfl, rfl⟩ := h.eq_of_ready he
    obtain ⟨entered, hrun, hcache⟩ := hrun 0
    exact ⟨0, _, hrun, rfl, hcache⟩
  | frame he _ hview hrun =>
    obtain ⟨verdict, walked, hwalk, rfl, rfl⟩ := h.exists_follows he
    obtain ⟨steps, ended, hloop, hcache⟩ := loop_of_follows hview hwalk
    exact ⟨steps, _, (hrun steps).trans hloop, rfl, hcache⟩

/-- A request at a type that is not marked ends with a status and a cache exactly when the recursive
evaluation comes back with them, and a run leaves the frames below a child alone until the child is
taken off. -/
theorem run_iff_evaluate (graph : TypeGraph) (rules : List Rule) (root : TypeRef)
    (threshold : Level) (context : Context Unit)
    (hroot : ∀ entry, context.cache.get? (graph.key root) = some entry →
      entry.value ≠ .calculating) :
    (∀ status cache,
      (∃ steps result, Machine.run graph.host rules steps root threshold context = .ok result ∧
        result.status = status ∧ result.context.cache = cache) ↔
      ∃ depth, graph.evaluate rules depth root threshold context.cache = some (status, cache)) ∧
    (∀ (machine : Machine Unit) (child : Frame) (below : List Frame),
      machine.stack = child :: below →
      ∀ steps later, Machine.after graph.host rules steps machine = some later →
        (∀ earlier < steps, ∀ between,
          Machine.after graph.host rules earlier machine = some between →
          below.length < between.stack.length) →
        below <:+ later.stack) := by
  constructor
  · intro status cache
    constructor
    · rintro ⟨steps, result, hrun, rfl, rfl⟩
      exact evaluates_of_run hrun
    · exact run_of_evaluates hroot
  · intro machine child below hs steps later hafter habove
    have hkept : below <:+ machine.stack := hs ▸ List.suffix_cons child below
    exact suffix_of_after hkept hafter habove

theorem evaluate_knot :
    ∃ depth cache,
      knot.evaluate [] depth ⟨⟨0⟩, none⟩ .immutable {} = some (.known .readonlyDeep, cache) := by
  have hrun : (Machine.run knot.host [] 20 ⟨⟨0⟩, none⟩ .immutable { state := () }).map (·.status) =
      .ok (.known .readonlyDeep) := rfl
  have hempty : ∀ entry, ({} : Cache).get? (knot.key ⟨⟨0⟩, none⟩) = some entry →
      entry.value ≠ .calculating := by
    intro entry h
    cases h
  cases hresult : Machine.run knot.host [] 20 ⟨⟨0⟩, none⟩ .immutable { state := () } with
  | error fault => rw [hresult] at hrun; cases hrun
  | ok result =>
    rw [hresult] at hrun
    injection hrun with hstatus
    obtain ⟨depth, hdepth⟩ :=
      ((run_iff_evaluate knot [] ⟨⟨0⟩, none⟩ .immutable { state := () } hempty).1 _ _).mp
        ⟨20, result, hresult, hstatus, rfl⟩
    exact ⟨depth, _, hdepth⟩

end Immutability.TypeGraph
