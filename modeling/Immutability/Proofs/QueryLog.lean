import Immutability.Proofs.LogBrackets
import Immutability.Query

/-!
# The log of queries

A query is logged by its start, its work and its end. The work is the same for every journal, so one
argument serves for two things: tracing changes no answer, and the log can be described without the
journal, as the accounts of the queries one after another.
-/

set_option autoImplicit false

namespace Immutability

variable {σ : Type}

/-! ### Queries -/

structure Inquiry where
  rules : List Rule
  ref : TypeRef
  max : Status

/-- The threshold of a query; one that is no level stands for the highest. -/
def Inquiry.threshold (inquiry : Inquiry) : Level := inquiry.max.level?.getD .immutable

def classifyWithin (host : Host σ) (steps : Nat) (inquiry : Inquiry) (context : Context σ) :
    Except Fault (Status × Context σ) := do
  let query := context.journal.nextQuery
  let answer ← Machine.run host inquiry.rules steps inquiry.ref inquiry.threshold
    { context with journal := context.journal.start inquiry.ref.id inquiry.threshold }
  let context := answer.context
  return (answer.status,
    { context with journal := context.journal.finish query answer.status answer.cacheHit })

theorem classify_eq_classifyWithin (host : Host σ) (inquiry : Inquiry) (context : Context σ) :
    classify host inquiry.rules inquiry.ref inquiry.max context =
      classifyWithin host stepLimit inquiry context := rfl

def classifyAll (host : Host σ) (steps : Nat) : List Inquiry → Context σ →
    Except Fault (List Status × Context σ)
  | [], context => .ok ([], context)
  | inquiry :: rest, context => do
    let (status, context) ← classifyWithin host steps inquiry context
    let (statuses, context) ← classifyAll host steps rest context
    return (status :: statuses, context)

/-- Each of the queries ends, and its root is not marked when it begins. -/
def AllEnd (host : Host σ) (steps : Nat) : List Inquiry → Context σ → Prop
  | [], _ => True
  | inquiry :: rest, context =>
    ¬ context.cache.Marked (context.key host inquiry.ref) ∧
    classifyWithin host steps inquiry context ≠ .error .stepsSpent ∧
    ∀ status later, classifyWithin host steps inquiry context = .ok (status, later) →
      AllEnd host steps rest later

/-- A query as the log shows it. -/
structure Account where
  inquiry : Inquiry
  status : Status
  /-- Whether the answer is said to come from the cache. -/
  hit : Bool
  /-- What happened between the start and the end. -/
  work : List Event

def Account.events (account : Account) (number : Nat) : List Event :=
  .queryStarted number account.inquiry.ref.id account.inquiry.threshold ::
    (account.work ++ [.queryEnded number account.status account.hit])

def chronicle : Nat → List Account → List Event
  | _, [] => []
  | number, account :: rest => account.events number ++ chronicle (number + 1) rest

def Journal.keep (journal : Journal) (account : Account) : Journal :=
  ((journal.start account.inquiry.ref.id account.inquiry.threshold).noteAll account.work).finish
    journal.nextQuery account.status account.hit

theorem Journal.keep_eq {journal : Journal} (account : Account) (h : journal.scope = .everything) :
    journal.keep account =
      { journal with
        nextQuery := journal.nextQuery + 1
        events := (journal.events.toList ++ account.events journal.nextQuery).toArray } := by
  obtain ⟨scope, number, events⟩ := journal
  cases h
  rw [keep, noteAll_eq _ (by rfl)]
  simp [start, finish, Account.events]

theorem Journal.events_keepAll {journal : Journal} (accounts : List Account)
    (h : journal.scope = .everything) :
    (accounts.foldl keep journal).events.toList =
      journal.events.toList ++ chronicle journal.nextQuery accounts := by
  induction accounts generalizing journal with
  | nil => exact (List.append_nil _).symm
  | cons account rest ih =>
    rw [List.foldl_cons, keep_eq account h, ih (by exact h), chronicle, List.append_assoc]

/-- An account is true of a query that begins with one state and cache and ends with another. -/
structure Account.Tells (host : Host σ) (steps : Nat) (account : Account) (state : σ) (cache : Cache)
    (later : σ) (filed : Cache) : Prop where
  bracketed : Bracketed 0 account.work
  hit : account.hit = true ↔ cache.Answers
    (account.inquiry.ref.key (host.identity state account.inquiry.ref.id)) account.inquiry.threshold
  answer : ∀ journal, classifyWithin host steps account.inquiry ⟨state, cache, journal⟩ =
    .ok (account.status, ⟨later, filed, journal.keep account⟩)

inductive TellAll (host : Host σ) (steps : Nat) : List Account → σ → Cache → σ → Cache → Prop
  | nil (state : σ) (cache : Cache) : TellAll host steps [] state cache state cache
  | cons {account : Account} {rest : List Account} {state later final : σ} {cache filed last : Cache} :
      account.Tells host steps state cache later filed →
      TellAll host steps rest later filed final last →
      TellAll host steps (account :: rest) state cache final last

theorem classifyWithin_of_error {host : Host σ} {steps : Nat} {inquiry : Inquiry}
    {context : Context σ} {fault : Fault}
    (h : Machine.run host inquiry.rules steps inquiry.ref inquiry.threshold
      { context with journal := context.journal.start inquiry.ref.id inquiry.threshold } =
        .error fault) :
    classifyWithin host steps inquiry context = .error fault := by
  rw [classifyWithin, h]
  rfl

theorem classifyWithin_of_ok (host : Host σ) (steps : Nat) (inquiry : Inquiry)
    (context : Context σ) {answer : Machine.Answer σ}
    (h : Machine.run host inquiry.rules steps inquiry.ref inquiry.threshold
      { context with journal := context.journal.start inquiry.ref.id inquiry.threshold } =
        .ok answer) :
    classifyWithin host steps inquiry context = .ok (answer.status,
      ⟨answer.context.state, answer.context.cache, answer.context.journal.finish
        context.journal.nextQuery answer.status answer.cacheHit⟩) := by
  rw [classifyWithin, h]
  rfl

/-- A query goes the same way for every journal. It fails for want of steps or because its root is
marked, or there is a true account of it. -/
theorem classifyWithin_cases (host : Host σ) (steps : Nat) (inquiry : Inquiry) (state : σ)
    (cache : Cache) :
    (∃ fault, (fault = .stepsSpent ∨
        cache.Marked (inquiry.ref.key (host.identity state inquiry.ref.id))) ∧
      ∀ journal, classifyWithin host steps inquiry ⟨state, cache, journal⟩ = .error fault) ∨
    ∃ (account : Account) (later : σ) (filed : Cache), account.inquiry = inquiry ∧
      account.Tells host steps state cache later filed := by
  by_cases hroot : cache.Marked (inquiry.ref.key (host.identity state inquiry.ref.id))
  · exact Or.inl ⟨_, Or.inr hroot, fun _ => classifyWithin_of_error (Machine.run_of_marked hroot)⟩
  · obtain ⟨hit, hhit, hspent | ⟨status, later, filed, work, hwork, hok⟩⟩ :=
      Machine.run_logs host inquiry.rules steps inquiry.ref inquiry.threshold state cache hroot
    · exact Or.inl ⟨_, Or.inl rfl, fun _ => classifyWithin_of_error (hspent _)⟩
    · refine Or.inr ⟨⟨inquiry, status, hit, work⟩, later, filed, rfl, hwork, hhit, fun journal => ?_⟩
      have hrun := hok (journal.start inquiry.ref.id inquiry.threshold)
      exact classifyWithin_of_ok host steps inquiry ⟨state, cache, journal⟩ hrun

section

variable {host : Host σ} {steps : Nat} {accounts : List Account} {state final : σ} {cache last : Cache}

theorem classifyAll_cons_ok {inquiry : Inquiry} {rest : List Inquiry} {context later : Context σ}
    {status : Status} (h : classifyWithin host steps inquiry context = .ok (status, later)) :
    classifyAll host steps (inquiry :: rest) context =
      (classifyAll host steps rest later).map fun reply => (status :: reply.1, reply.2) := by
  rw [classifyAll, h]
  change (classifyAll host steps rest later).bind _ = _
  cases classifyAll host steps rest later <;> rfl

theorem classifyAll_cons_error {inquiry : Inquiry} {rest : List Inquiry} {context : Context σ}
    {fault : Fault} (h : classifyWithin host steps inquiry context = .error fault) :
    classifyAll host steps (inquiry :: rest) context = .error fault := by
  rw [classifyAll, h]
  rfl

theorem TellAll.classifyAll_eq (h : TellAll host steps accounts state cache final last)
    (journal : Journal) :
    classifyAll host steps (accounts.map (·.inquiry)) ⟨state, cache, journal⟩ =
      .ok (accounts.map (·.status), ⟨final, last, accounts.foldl Journal.keep journal⟩) := by
  induction h generalizing journal with
  | nil => rfl
  | cons htells _ ih =>
    rw [List.map_cons, classifyAll_cons_ok (htells.answer journal), ih]
    rfl

theorem TellAll.bracketed (h : TellAll host steps accounts state cache final last) :
    ∀ account ∈ accounts, Bracketed 0 account.work := by
  induction h with
  | nil => exact List.forall_mem_nil _
  | cons htells _ ih => exact List.forall_mem_cons.mpr ⟨htells.bracketed, ih⟩

theorem TellAll.split {earlier rest : List Account}
    (h : TellAll host steps (earlier ++ rest) state cache final last) :
    ∃ middle filed, TellAll host steps earlier state cache middle filed ∧
      TellAll host steps rest middle filed final last := by
  induction earlier generalizing state cache with
  | nil => exact ⟨state, cache, .nil state cache, h⟩
  | cons account earlier ih =>
    cases h with
    | cons htells hmore =>
      obtain ⟨middle, filed, hearlier, hrest⟩ := ih hmore
      exact ⟨middle, filed, .cons htells hearlier, hrest⟩

theorem exists_tellAll {inquiries : List Inquiry} {journal : Journal}
    (h : AllEnd host steps inquiries ⟨state, cache, journal⟩) :
    ∃ accounts final last, accounts.map (·.inquiry) = inquiries ∧
      TellAll host steps accounts state cache final last := by
  induction inquiries generalizing state cache journal with
  | nil => exact ⟨[], state, cache, rfl, .nil state cache⟩
  | cons inquiry rest ih =>
    obtain ⟨hroot, hends, hrest⟩ := h
    rcases classifyWithin_cases host steps inquiry state cache with
      ⟨fault, rfl | hmarked, hfails⟩ | ⟨account, later, filed, rfl, htells⟩
    · exact absurd (hfails journal) hends
    · exact absurd hmarked hroot
    · obtain ⟨accounts, final, last, rfl, hall⟩ := ih (hrest _ _ (htells.answer journal))
      exact ⟨account :: accounts, final, last, rfl, .cons htells hall⟩

theorem allEnd_of_classifyAll {inquiries : List Inquiry} {context : Context σ}
    {reply : List Status × Context σ} (h : classifyAll host steps inquiries context = .ok reply) :
    AllEnd host steps inquiries context := by
  induction inquiries generalizing context reply with
  | nil => trivial
  | cons inquiry rest ih =>
    have hanswered : ∀ fault, classifyWithin host steps inquiry context ≠ .error fault := by
      intro fault hfails
      rw [classifyAll_cons_error hfails] at h
      cases h
    refine ⟨fun hmarked => ?_, hanswered _, fun status later hfirst => ?_⟩
    · exact hanswered _ (classifyWithin_of_error (Machine.run_of_marked hmarked))
    · rw [classifyAll_cons_ok hfirst] at h
      cases hrest : classifyAll host steps rest later with
      | error fault =>
        rw [hrest] at h
        cases h
      | ok reply => exact ih hrest

/-- What queries come to, apart from the log, is the same for every journal. -/
theorem classifyAll_journal (inquiries : List Inquiry) (journal other : Journal) :
    (classifyAll host steps inquiries ⟨state, cache, journal⟩).map
        (fun reply => (reply.1, reply.2.state, reply.2.cache)) =
      (classifyAll host steps inquiries ⟨state, cache, other⟩).map
        (fun reply => (reply.1, reply.2.state, reply.2.cache)) := by
  induction inquiries generalizing state cache journal other with
  | nil => rfl
  | cons inquiry rest ih =>
    rcases classifyWithin_cases host steps inquiry state cache with
      ⟨fault, -, hfails⟩ | ⟨account, later, filed, rfl, htells⟩
    · rw [classifyAll_cons_error (hfails journal), classifyAll_cons_error (hfails other)]
    · rw [classifyAll_cons_ok (htells.answer journal), classifyAll_cons_ok (htells.answer other)]
      have hmap : ∀ reply : Except Fault (List Status × Context σ),
          (reply.map fun reply => (account.status :: reply.1, reply.2)).map
            (fun reply => (reply.1, reply.2.state, reply.2.cache)) =
          (reply.map fun reply => (reply.1, reply.2.state, reply.2.cache)).map
            (fun reply => (account.status :: reply.1, reply.2)) := by
        intro reply
        cases reply <;> rfl
      rw [hmap, hmap, ih]

end

/-- The log of queries that end holds a start and an end for each of them, in order and numbered one after
another. The end says what was answered, and that the cache answered it just in case the key of the root
had an entry for the threshold when the query began. What lies between them is bracketed. Without a log, or
with another one, the answers, the cache and the state of the host are the same. -/
theorem log_of_inquiries (host : Host σ) (steps : Nat) (inquiries : List Inquiry)
    (context : Context σ) :
    (context.journal.scope = .everything → AllEnd host steps inquiries context →
      ∃ accounts final,
        classifyAll host steps inquiries context = .ok (accounts.map (·.status), final) ∧
        accounts.map (·.inquiry) = inquiries ∧
        final.journal.events.toList =
          context.journal.events.toList ++ chronicle context.journal.nextQuery accounts ∧
        (∀ account ∈ accounts, Bracketed 0 account.work) ∧
        ∀ earlier account rest, accounts = earlier ++ account :: rest → ∃ begun : Context σ,
          classifyAll host steps (earlier.map (·.inquiry)) context =
            .ok (earlier.map (·.status), begun) ∧
          (account.hit = true ↔ begun.cache.Answers (begun.key host account.inquiry.ref)
            account.inquiry.threshold)) ∧
    ∀ journal, (classifyAll host steps inquiries { context with journal }).map
        (fun reply => (reply.1, reply.2.state, reply.2.cache)) =
      (classifyAll host steps inquiries context).map
        (fun reply => (reply.1, reply.2.state, reply.2.cache)) := by
  obtain ⟨state, cache, journal⟩ := context
  refine ⟨fun hscope hends => ?_, fun other => classifyAll_journal inquiries other journal⟩
  obtain ⟨accounts, final, last, rfl, hall⟩ := exists_tellAll hends
  refine ⟨accounts, _, hall.classifyAll_eq journal, rfl, Journal.events_keepAll accounts hscope,
    hall.bracketed, ?_⟩
  rintro earlier account rest rfl
  obtain ⟨middle, filed, hearlier, hrest⟩ := hall.split
  cases hrest with
  | cons htells _ => exact ⟨_, hearlier.classifyAll_eq journal, htells.hit⟩

def knotInquiries : List Inquiry :=
  [⟨[], ⟨⟨0⟩, none⟩, .known .immutable⟩, ⟨[], ⟨⟨1⟩, none⟩, .unknown⟩]

/-- The record is entered again inside of itself, where it is spelled out. -/
def knotLog : List Event :=
  [.queryStarted 1 ⟨0⟩ .immutable, .markedCalculating ⟨0⟩, .framePushed ⟨0⟩ 0,
    .markedCalculating ⟨1⟩, .framePushed ⟨1⟩ 1, .markedCalculating ⟨0⟩, .framePushed ⟨0⟩ 2,
    .cacheHit (.identity ⟨1⟩) .calculating, .markedCalculating ⟨2⟩,
    .frameResolved ⟨0⟩ 2 (.known .readonlyDeep), .cacheHit (.identity ⟨2⟩) (.known .immutable),
    .frameResolved ⟨1⟩ 1 (.known .readonlyDeep), .cacheHit (.identity ⟨2⟩) (.known .immutable),
    .frameResolved ⟨0⟩ 0 (.known .readonlyDeep), .queryEnded 1 (.known .readonlyDeep) false,
    .queryStarted 2 ⟨1⟩ .immutable, .cacheHit (.identity ⟨1⟩) (.known .readonlyDeep),
    .queryEnded 2 (.known .readonlyDeep) true]

theorem log_of_inquiries_knot :
    let context : Context Unit := { state := (), journal := { scope := .everything } }
    AllEnd TypeGraph.knot.host 20 knotInquiries context ∧
    ∃ accounts : List Account, (∀ account ∈ accounts, Bracketed 0 account.work) ∧
      accounts.map (·.status) = [.known .readonlyDeep, .known .readonlyDeep] ∧
      chronicle 1 accounts = knotLog := by
  intro context
  have hlogged : (classifyAll TypeGraph.knot.host 20 knotInquiries context).toOption.map
      (fun reply => (reply.1, reply.2.journal.events.toList)) =
      some ([.known .readonlyDeep, .known .readonlyDeep], knotLog) := by decide +kernel
  cases hall : classifyAll TypeGraph.knot.host 20 knotInquiries context with
  | error fault =>
    rw [hall] at hlogged
    cases hlogged
  | ok reply =>
    have hends := allEnd_of_classifyAll hall
    obtain ⟨accounts, final, hok, -, hlog, hbracketed, -⟩ :=
      (log_of_inquiries TypeGraph.knot.host 20 knotInquiries context).1 rfl hends
    rw [hok] at hlogged
    obtain ⟨hstatuses, hevents⟩ := Prod.mk.inj (Option.some.inj hlogged)
    exact ⟨hends, accounts, hbracketed, hstatuses, hlog.symm.trans hevents⟩

end Immutability
