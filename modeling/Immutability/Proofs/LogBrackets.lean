import Immutability.Proofs.CacheMarks
import Immutability.Proofs.Termination

/-!
# Frames in the log

Nothing that a classification does depends on its journal. What it logs is a list of events that is the
same for every journal, and a journal keeps it or leaves it out.

Frames are logged like brackets. A frame is pushed at the depth of the stack and is resolved at the same
depth, once everything that was pushed above it has been resolved. This is proved from the end of a run:
what a run still has to log closes the frames that are open, and each step adds its events in front.
-/

set_option autoImplicit false

namespace Immutability

/-! ### Events -/

def Event.isAside : Event → Bool
  | queryStarted .. | queryEnded .. | framePushed .. | frameResolved .. => false
  | _ => true

def Asides (events : List Event) : Prop := ∀ event ∈ events, event.isAside = true

namespace Asides

variable {event : Event} {events others : List Event}

theorem nil : Asides [] := List.forall_mem_nil _

theorem cons (hevent : event.isAside = true) (h : Asides events) : Asides (event :: events) :=
  List.forall_mem_cons.mpr ⟨hevent, h⟩

theorem append (h : Asides events) (hothers : Asides others) : Asides (events ++ others) :=
  List.forall_mem_append.mpr ⟨h, hothers⟩

end Asides

namespace Journal

def noteAll (journal : Journal) (events : List Event) : Journal :=
  events.foldl (fun journal event => journal.note fun _ => event) journal

theorem noteAll_append (journal : Journal) (first second : List Event) :
    journal.noteAll (first ++ second) = (journal.noteAll first).noteAll second := List.foldl_append

theorem noteAll_eq (events : List Event) {journal : Journal} (h : journal.scope = .everything) :
    journal.noteAll events =
      { journal with events := (journal.events.toList ++ events).toArray } := by
  induction events generalizing journal with
  | nil => simp [noteAll]
  | cons event rest ih =>
    have hnote : journal.note (fun _ => event) =
        { journal with events := journal.events.push event } := by
      rw [note, h]
    change (journal.note fun _ => event).noteAll rest = _
    rw [hnote]
    refine (@ih { journal with events := journal.events.push event } h).trans ?_
    simp

end Journal

/-- Events in which each push of a frame is closed by a resolution of the same type and depth. The depth
is the number of frames that are open around an event. -/
inductive Bracketed : Nat → List Event → Prop
  | nil (depth : Nat) : Bracketed depth []
  | aside {depth : Nat} {event : Event} {rest : List Event} :
      event.isAside = true → Bracketed depth rest → Bracketed depth (event :: rest)
  | frame {depth : Nat} {type : TypeId} {verdict : Verdict} {inner rest : List Event} :
      Bracketed (depth + 1) inner → Bracketed depth rest →
      Bracketed depth (.framePushed type depth :: (inner ++ .frameResolved type depth verdict :: rest))

/-- Events that close the frames of some types, the innermost first, and push none that stay open. -/
def Closes : List TypeId → List Event → Prop
  | [], events => Bracketed 0 events
  | type :: below, events => ∃ inner verdict rest, Bracketed (below.length + 1) inner ∧ Closes below rest ∧
      events = inner ++ .frameResolved type below.length verdict :: rest

theorem Bracketed.append {depth : Nat} {first second : List Event} (hfirst : Bracketed depth first)
    (hsecond : Bracketed depth second) : Bracketed depth (first ++ second) := by
  induction hfirst with
  | nil => exact hsecond
  | aside haside _ ih => exact .aside haside (ih hsecond)
  | frame hinner _ _ ih =>
    rw [List.cons_append, List.append_assoc, List.cons_append]
    exact .frame hinner (ih hsecond)

theorem Asides.bracketed {events : List Event} (h : Asides events) (depth : Nat) :
    Bracketed depth events := by
  induction events with
  | nil => exact .nil depth
  | cons event rest ih =>
    obtain ⟨hevent, hrest⟩ := List.forall_mem_cons.mp h
    exact .aside hevent (ih hrest)

namespace Closes

variable {types : List TypeId} {type : TypeId} {before events : List Event}

theorem prepend (h : Closes types events) (hbefore : Bracketed types.length before) :
    Closes types (before ++ events) := by
  cases types with
  | nil => exact hbefore.append h
  | cons type below =>
    obtain ⟨inner, verdict, rest, hinner, hrest, rfl⟩ := h
    exact ⟨before ++ inner, verdict, rest, hbefore.append hinner, hrest, (List.append_assoc ..).symm⟩

theorem push (h : Closes (type :: types) events) :
    Closes types (.framePushed type types.length :: events) := by
  obtain ⟨inner, verdict, rest, hinner, hrest, rfl⟩ := h
  have hframe : Bracketed types.length (.framePushed type types.length ::
      (inner ++ [.frameResolved type types.length verdict])) := .frame hinner (.nil _)
  have hmore := hrest.prepend hframe
  rwa [List.cons_append, List.append_assoc, List.singleton_append] at hmore

theorem resolve (h : Closes types events) (verdict : Verdict) :
    Closes (type :: types) (.frameResolved type types.length verdict :: events) :=
  ⟨[], verdict, events, .nil _, h, rfl⟩

end Closes

/-! ### Asides -/

variable {σ : Type}

/-- From a state and a cache on, an action looks at no journal and adds only asides to it. -/
def Remarks {α : Type} (act : Context σ → α × Context σ) (state : σ) (cache : Cache) : Prop :=
  ∃ value later filed events, Asides events ∧
    ∀ journal, act ⟨state, cache, journal⟩ = (value, ⟨later, filed, journal.noteAll events⟩)

section

variable (host : Host σ) (rules : List Rule) (ref : TypeRef) (threshold : Level) (state : σ)
  (cache : Cache)

/-- A cache that is consulted stays as it is. -/
theorem consult_remarks :
    ∃ events, Asides events ∧
      ∀ journal, Context.consult host ref threshold ⟨state, cache, journal⟩ =
        (match cache.lookup (ref.key (host.identity state ref.id)) (.known threshold) with
          | .hit status => some status
          | _ => none, ⟨state, cache, journal.noteAll events⟩) := by
  have hkey : ∀ journal, Context.key host ⟨state, cache, journal⟩ ref =
      ref.key (host.identity state ref.id) := fun _ => rfl
  simp only [Context.consult, hkey]
  cases cache.lookup (ref.key (host.identity state ref.id)) (.known threshold) with
  | absent => exact ⟨[], .nil, fun _ => rfl⟩
  | below value => exact ⟨[_], .cons rfl .nil, fun _ => rfl⟩
  | hit value => exact ⟨[_], .cons rfl .nil, fun _ => rfl⟩

theorem list_remarks (id : TypeId) : Remarks (Context.list host id) state cache := by
  refine ⟨(host.properties state id).properties, (host.properties state id).state, cache,
    (host.properties state id).registered.map .typeRegistered, ?_, fun journal => ?_⟩
  · intro event hevent
    obtain ⟨type, _, rfl⟩ := List.mem_map.mp hevent
    rfl
  · rw [Journal.noteAll, List.foldl_map]
    rfl

theorem approach_remarks (id : TypeId) (shape : Shape) :
    Remarks (approach host id shape threshold) state cache := by
  have hpure : ∀ found : Approach, Remarks (fun context : Context σ => (found, context)) state cache :=
    fun found => ⟨found, state, cache, [], .nil, fun _ => rfl⟩
  obtain ⟨properties, later, filed, events, hasides, hlist⟩ := list_remarks host state cache id
  cases shape with
  | error => exact hpure _
  | primitive => exact hpure _
  | union members => exact hpure _
  | conditional whenTrue whenFalse => exact hpure _
  | intersection members =>
    simp only [Remarks, approach, hlist]
    exact ⟨_, later, filed, events, hasides, fun _ => rfl⟩
  | object kind =>
    simp only [Remarks, approach, hlist]
    split
    · exact ⟨_, later, filed, events, hasides, fun _ => rfl⟩
    · cases kind with
      | plain => exact ⟨_, later, filed, events, hasides, fun _ => rfl⟩
      | array => exact ⟨_, later, filed, events, hasides, fun _ => rfl⟩
      | tuple readonly => cases readonly <;> exact ⟨_, later, filed, events, hasides, fun _ => rfl⟩

/-- A verdict that is filed is settled, whatever a pending rule makes of it. -/
theorem conclude_remarks (pending : Option PendingRule) (verdict : Verdict) :
    ∃ found filed events, Asides events ∧
      ∀ journal, conclude host ref threshold pending verdict ⟨state, cache, journal⟩ =
        (.settled found, ⟨state, filed, journal.noteAll events⟩) := by
  simp only [conclude, Context.record, Context.note]
  cases pending with
  | none => exact ⟨verdict, _, [], .nil, fun _ => rfl⟩
  | some rule =>
    dsimp only
    split
    · next hbetween =>
      cases htarget : rule.target with
      | settled found => exact ⟨found, _, [_], .cons rfl .nil, fun _ => rfl⟩
      | calculating =>
        rw [htarget, isBetween_calculating] at hbetween
        cases hbetween
    · exact ⟨verdict, _, [], .nil, fun _ => rfl⟩

theorem descend_remarks (shape : Shape) (pending : Option PendingRule) :
    Remarks (descend host ref shape threshold pending) state cache := by
  obtain ⟨found, later, filed, events, hasides, happroach⟩ :=
    approach_remarks host threshold state
      (cache.record ref (host.identity state ref.id) .inProgress) ref.id shape
  have hmarked : Asides (.markedCalculating ref.id :: events) :=
    .cons rfl hasides
  simp only [Remarks, descend, Context.record, Context.note, happroach]
  cases found with
  | leaf verdict =>
    obtain ⟨found, concluded, others, hothers, hconclude⟩ :=
      conclude_remarks host ref threshold later filed pending verdict
    refine ⟨.ready (.settled found), later, concluded, (.markedCalculating ref.id :: events) ++ others,
      hmarked.append hothers, fun journal => ?_⟩
    rw [Journal.noteAll_append]
    simp only [hconclude]
    rfl
  | walk task => exact ⟨_, later, filed, _, hmarked, fun _ => rfl⟩

theorem visit_remarks : Remarks (visit host rules ref threshold) state cache := by
  simp only [Remarks, visit]
  split
  · exact ⟨_, _, _, [_], .cons rfl .nil, fun _ => rfl⟩
  · split
    · exact descend_remarks host ref threshold state cache _ none
    · cases Rule.find? rules (host.subject state ref) with
      | none => exact descend_remarks host ref threshold state cache _ none
      | some rule =>
        cases horigin : rule.origin with
        | none =>
          simp only [horigin, Context.record, Context.note]
          exact ⟨_, _, _, [_], .cons rfl .nil, fun _ => rfl⟩
        | some origin =>
          simp only [horigin]
          obtain ⟨value, later, filed, events, hasides, hdescend⟩ :=
            descend_remarks host ref .immutable state cache (host.shape state ref.id)
              (some { origin, target := rule.target })
          refine ⟨value, later, filed, .ruleMatched ref.id rule.target (some origin) :: events,
            .cons rfl hasides, fun journal => ?_⟩
          exact hdescend _

theorem enter_remarks : Remarks (enter host rules ref threshold) state cache := by
  obtain ⟨events, hasides, hconsult⟩ := consult_remarks host ref threshold state cache
  obtain ⟨value, later, filed, others, hothers, hvisit⟩ :=
    visit_remarks host rules ref threshold state cache
  have hmiss : Remarks
      (fun context : Context σ => visit host rules ref threshold
        { context with journal := context.journal.noteAll events }) state cache := by
    refine ⟨value, later, filed, events ++ others, hasides.append hothers, fun journal => ?_⟩
    rw [Journal.noteAll_append]
    exact hvisit _
  simp only [Remarks, enter, hconsult]
  cases cache.lookup (ref.key (host.identity state ref.id)) (.known threshold) with
  | absent => exact hmiss
  | below status => exact hmiss
  | hit status => exact ⟨_, _, _, events, hasides, fun _ => rfl⟩

end

/-! ### Runs -/

namespace Machine

variable (host : Host σ) (rules : List Rule)

/-- What a step can do with a frame on the stack, and what it logs. -/
inductive Goes (state : σ) (cache : Cache) (frame : Frame) (below : List Frame)
    (answer : Option Verdict) : Prop
  | answered {later : σ} {filed : Cache} {events : List Event} {task : Task} {verdict : Verdict} :
      Asides events →
      (∀ journal, step host rules ⟨⟨state, cache, journal⟩, frame :: below, answer⟩ =
        .running ⟨⟨later, filed, journal.noteAll events⟩, { frame with task } :: below, some verdict⟩) →
      Goes state cache frame below answer
  | pushed {later : σ} {filed : Cache} {events : List Event} {task : Task} {inner : Frame} :
      Asides events →
      (∀ journal, step host rules ⟨⟨state, cache, journal⟩, frame :: below, answer⟩ =
        .running ⟨⟨later, filed,
            journal.noteAll (events ++ [.framePushed inner.ref.id (below.length + 1)])⟩,
          inner :: { frame with task } :: below, none⟩) →
      Goes state cache frame below answer
  | resolved {filed : Cache} {events : List Event} {verdict found : Verdict} :
      Asides events →
      (∀ journal, step host rules ⟨⟨state, cache, journal⟩, frame :: below, answer⟩ =
        .running ⟨⟨state, filed,
            journal.noteAll (.frameResolved frame.ref.id below.length verdict :: events)⟩,
          below, some found⟩) →
      Goes state cache frame below answer
  | ended {filed : Cache} {events : List Event} {verdict found : Verdict} :
      Asides events → below = [] →
      (∀ journal, step host rules ⟨⟨state, cache, journal⟩, frame :: below, answer⟩ =
        .ended found ⟨state, filed,
          journal.noteAll (.frameResolved frame.ref.id below.length verdict :: events)⟩) →
      Goes state cache frame below answer

theorem goes (state : σ) (cache : Cache) (frame : Frame) (below : List Frame)
    (answer : Option Verdict) : Goes host rules state cache frame below answer := by
  cases hresume : frame.task.resume host state answer with
  | await child task =>
    obtain ⟨entered, later, filed, events, hasides, henter⟩ :=
      enter_remarks host rules child frame.threshold state cache
    cases entered with
    | ready status =>
      have hstep : ∀ journal, step host rules ⟨⟨state, cache, journal⟩, frame :: below, answer⟩ =
          .running ⟨⟨later, filed, journal.noteAll events⟩, { frame with task } :: below,
            some status.settle⟩ := by
        intro journal
        simp only [step, hresume, ask, henter]
      exact .answered hasides hstep
    | frame inner =>
      have hstep : ∀ journal, step host rules ⟨⟨state, cache, journal⟩, frame :: below, answer⟩ =
          .running ⟨⟨later, filed,
            journal.noteAll (events ++ [.framePushed inner.ref.id (below.length + 1)])⟩,
          inner :: { frame with task } :: below, none⟩ := by
        intro journal
        simp only [step, hresume, ask, henter, push, Context.note, List.length_cons,
          Journal.noteAll_append]
        rfl
      exact .pushed hasides hstep
  | done verdict =>
    obtain ⟨found, filed, events, hasides, hconclude⟩ :=
      conclude_remarks host frame.ref frame.threshold state cache frame.pending verdict
    cases below with
    | nil =>
      have hstep : ∀ journal, step host rules ⟨⟨state, cache, journal⟩, [frame], answer⟩ =
          .ended found ⟨state, filed,
            journal.noteAll (.frameResolved frame.ref.id 0 verdict :: events)⟩ := by
        intro journal
        simp only [step, hresume, resolve, Context.note, hconclude]
        rfl
      exact .ended hasides rfl hstep
    | cons outer below =>
      have hstep : ∀ journal,
          step host rules ⟨⟨state, cache, journal⟩, frame :: outer :: below, answer⟩ =
          .running ⟨⟨state, filed, journal.noteAll
            (.frameResolved frame.ref.id (outer :: below).length verdict :: events)⟩,
            outer :: below, some found⟩ := by
        intro journal
        simp only [step, hresume, resolve, Context.note, hconclude]
        rfl
      exact .resolved hasides hstep

/-- An attempt to answer a request that ends the same way for every journal: for want of steps, or with
events that are the same for all of them. -/
def Logs (attempt : Journal → Except Fault (Answer σ)) (hit : Bool) (good : List Event → Prop) : Prop :=
  (∀ journal, attempt journal = .error .stepsSpent) ∨
    ∃ status later filed events, good events ∧
      ∀ journal, attempt journal =
        .ok { status, cacheHit := hit, context := ⟨later, filed, journal.noteAll events⟩ }

variable {host rules} {attempt next : Journal → Except Fault (Answer σ)} {hit : Bool}
  {good ahead : List Event → Prop}

theorem Logs.after {before : List Event} (h : Logs next hit ahead)
    (hnext : ∀ journal, attempt journal = next (journal.noteAll before))
    (hgood : ∀ events, ahead events → good (before ++ events)) : Logs attempt hit good := by
  rcases h with hspent | ⟨status, later, filed, events, hahead, hok⟩
  · exact Or.inl fun journal => (hnext journal).trans (hspent _)
  · refine Or.inr ⟨status, later, filed, before ++ events, hgood events hahead, fun journal => ?_⟩
    rw [hnext, hok, Journal.noteAll_append]

theorem loop_of_running {machine later : Machine σ} (h : machine.step host rules = .running later)
    (steps : Nat) : loop host rules (steps + 1) machine = loop host rules steps later := by
  rw [loop, h]

/-- What a run has still to log closes the frames on its stack. -/
theorem loop_logs (host : Host σ) (rules : List Rule) (steps : Nat) (state : σ) (cache : Cache)
    (stack : List Frame) (answer : Option Verdict) :
    Logs (fun journal => loop host rules steps ⟨⟨state, cache, journal⟩, stack, answer⟩) false
      (Closes (stack.map (·.ref.id))) := by
  induction steps generalizing state cache stack answer with
  | zero => exact Or.inl fun _ => rfl
  | succ steps ih =>
    cases stack with
    | nil => exact Or.inr ⟨answer.getD .unknown, state, cache, [], .nil 0, fun _ => rfl⟩
    | cons frame below =>
      have hlength : (below.map (·.ref.id)).length = below.length := List.length_map ..
      cases goes host rules state cache frame below answer with
      | @answered later filed events task verdict hasides hstep =>
        apply (ih later filed ({ frame with task } :: below) (some verdict)).after
          fun journal => loop_of_running (hstep journal) steps
        exact fun rest hrest => hrest.prepend (hasides.bracketed _)
      | @pushed later filed events task inner hasides hstep =>
        apply (ih later filed (inner :: { frame with task } :: below) none).after
          fun journal => loop_of_running (hstep journal) steps
        intro rest hrest
        rw [← hlength, List.append_assoc]
        exact hrest.push.prepend (hasides.bracketed _)
      | @resolved filed events verdict found hasides hstep =>
        apply (ih state filed below (some found)).after
          fun journal => loop_of_running (hstep journal) steps
        intro rest hrest
        rw [← hlength]
        exact (hrest.prepend (hasides.bracketed _)).resolve verdict
      | @ended filed events verdict found hasides hnil hstep =>
        subst hnil
        refine Or.inr ⟨found, state, filed, .frameResolved frame.ref.id 0 verdict :: events, ?_,
          fun journal => ?_⟩
        · have hrest : Closes [] events := hasides.bracketed 0
          exact hrest.resolve verdict
        · simp only [loop, hstep]
          rfl

theorem run_of_marked {steps : Nat} {root : TypeRef} {threshold : Level} {state : σ} {cache : Cache}
    {journal : Journal} (h : cache.Marked (root.key (host.identity state root.id))) :
    run host rules steps root threshold ⟨state, cache, journal⟩ =
      .error (.stillCalculating root.id) := by
  obtain ⟨entry, hget, hvalue⟩ := h
  have hsatisfies : entry.satisfies (.known threshold) = true := by
    rw [Entry.satisfies, hvalue]
    rfl
  have hlookup : cache.lookup (root.key (host.identity state root.id)) (.known threshold) =
      .hit .calculating := Cache.lookup_eq_hit_iff.mpr ⟨entry, hget, hsatisfies, hvalue⟩
  obtain ⟨events, -, hconsult⟩ := consult_remarks host root threshold state cache
  simp only [run, hconsult, hlookup]

theorem run_logs_of_miss (rules : List Rule) (steps : Nat) {root : TypeRef} {threshold : Level}
    {state : σ} {cache : Cache} {events : List Event} (hasides : Asides events)
    (hconsult : ∀ journal, Context.consult host root threshold ⟨state, cache, journal⟩ =
      (none, ⟨state, cache, journal.noteAll events⟩)) :
    Logs (fun journal => run host rules steps root threshold ⟨state, cache, journal⟩) false
      (Bracketed 0) := by
  obtain ⟨entered, later, filed, others, hothers, henter⟩ :=
    enter_remarks host rules root threshold state cache
  have hbracketed := (hasides.append hothers).bracketed 0
  cases entered with
  | ready status =>
    refine Or.inr ⟨status, later, filed, events ++ others, hbracketed, fun journal => ?_⟩
    simp only [run, hconsult, henter, Journal.noteAll_append]
  | frame frame =>
    have hnext : ∀ journal : Journal,
        run host rules steps root threshold ⟨state, cache, journal⟩ =
        loop host rules steps ⟨⟨later, filed,
          journal.noteAll ((events ++ others) ++ [.framePushed frame.ref.id 0])⟩, [frame], none⟩ := by
      intro journal
      simp only [run, hconsult, henter, Journal.noteAll_append]
      rfl
    refine (loop_logs host rules steps later filed [frame] none).after hnext fun rest hrest => ?_
    rw [List.append_assoc]
    exact hbracketed.append hrest.push

/-- A request whose root is not marked logs its frames as brackets, and says rightly whether the cache
answered it. -/
theorem run_logs (host : Host σ) (rules : List Rule) (steps : Nat) (root : TypeRef) (threshold : Level)
    (state : σ) (cache : Cache)
    (hroot : ¬ cache.Marked (root.key (host.identity state root.id))) :
    ∃ hit, (hit = true ↔ cache.Answers (root.key (host.identity state root.id)) threshold) ∧
      Logs (fun journal => run host rules steps root threshold ⟨state, cache, journal⟩) hit
        (Bracketed 0) := by
  obtain ⟨events, hasides, hconsult⟩ := consult_remarks host root threshold state cache
  rw [Cache.answers_iff_hit]
  cases hlookup : cache.lookup (root.key (host.identity state root.id)) (.known threshold) with
  | absent =>
    simp only [hlookup] at hconsult
    exact ⟨false, by simp, run_logs_of_miss rules steps hasides hconsult⟩
  | below value =>
    simp only [hlookup] at hconsult
    exact ⟨false, by simp, run_logs_of_miss rules steps hasides hconsult⟩
  | hit status =>
    cases status with
    | calculating =>
      obtain ⟨entry, hentry, _, hvalue⟩ := Cache.lookup_eq_hit_iff.mp hlookup
      exact absurd ⟨entry, hentry, hvalue⟩ hroot
    | settled verdict =>
      simp only [hlookup] at hconsult
      refine ⟨true, by simp, Or.inr ⟨verdict, state, cache, events, hasides.bracketed 0, ?_⟩⟩
      intro journal
      simp only [run, hconsult]

end Machine

end Immutability
