import Immutability.Proofs.RenderingSketches

/-!
# The budget of a formatter

A formatter has ten thousand steps for everything that it is ever asked for. What it did before matters
through the steps that this took, and only where they run out: as long as there are enough left, types are
written as by a new formatter, and once there are none, every type is written as three dots. When they run
out can be told from what the types cost a new formatter.
-/

set_option autoImplicit false

namespace Immutability

/-- On a path, an action takes some steps. Later on it does the same if there are as many steps left, and
otherwise it uses up what is left. -/
def Metered {α : Type} (path : List TypeId) (act : Guard → α × Guard) : Prop :=
  ∀ steps, ∃ value cost,
    act (.along path 0 steps) = (value, .along path 0 (steps + cost)) ∧
    ∀ later, steps ≤ later →
      (later + cost ≤ Limits.typeNameSteps →
        act (.along path 0 later) = (value, .along path 0 (later + cost))) ∧
      (Limits.typeNameSteps ≤ later + cost →
        ∃ found spent, act (.along path 0 later) = (found, .along path 0 spent) ∧
          Limits.typeNameSteps ≤ spent)

namespace Guard

variable {path : List TypeId} {id : TypeId} {unmatched steps later : Nat}

theorem admits_later (h : (along path unmatched steps).admits id = true)
    (hlater : later < Limits.typeNameSteps) : (along path unmatched later).admits id = true := by
  simp only [admits, along, Bool.and_eq_true] at h ⊢
  exact ⟨⟨⟨decide_eq_true hlater, h.1.1.2⟩, h.1.2⟩, h.2⟩

/-- Types that are refused while there are steps left are refused later too. -/
theorem refuses_later (h : (along path unmatched steps).admits id = false)
    (hsteps : steps < Limits.typeNameSteps) : (along path unmatched later).admits id = false := by
  rw [Bool.eq_false_iff] at h ⊢
  exact fun hadmits => h (admits_later hadmits hsteps)

theorem refuses_of_spent (h : Limits.typeNameSteps ≤ steps) :
    (along path unmatched steps).admits id = false := by
  rw [Bool.eq_false_iff]
  exact fun hadmits => Nat.not_lt_of_le h (steps_lt_of_admits hadmits)

end Guard

namespace Metered

variable {α β : Type} {path : List TypeId} {act : Guard → α × Guard} {write : Writer Guard}

theorem pure (path : List TypeId) (value : α) : Metered path fun guard => (value, guard) :=
  fun _ => ⟨value, 0, rfl, fun later _ => ⟨fun _ => rfl, fun hspent => ⟨value, later, rfl, hspent⟩⟩⟩

theorem bind {next : α → Guard → β × Guard} (h : Metered path act)
    (hnext : ∀ value, Metered path (next value)) :
    Metered path fun guard => next (act guard).1 (act guard).2 := by
  intro steps
  obtain ⟨value, cost, hact, hlater⟩ := h steps
  obtain ⟨result, more, hresult, hmore⟩ := hnext value (steps + cost)
  refine ⟨result, cost + more, ?_, fun later hle => ⟨fun hfits => ?_, fun hspent => ?_⟩⟩
  · dsimp only
    rw [hact, hresult, Nat.add_assoc]
  · dsimp only
    rw [(hlater later hle).1 (by omega), (hmore (later + cost) (by omega)).1 (by omega),
      Nat.add_assoc]
  · dsimp only
    by_cases hfits : later + cost ≤ Limits.typeNameSteps
    · rw [(hlater later hle).1 hfits]
      exact (hmore (later + cost) (by omega)).2 (by omega)
    · obtain ⟨found, spent, hfound, hused⟩ := (hlater later hle).2 (by omega)
      obtain ⟨last, extra, hlast, _⟩ := hnext found spent
      rw [hfound]
      exact ⟨last, spent + extra, hlast, by omega⟩

theorem map (f : α → β) (h : Metered path act) :
    Metered path fun guard => (f (act guard).1, (act guard).2) :=
  h.bind fun value => pure path (f value)

theorem watched {id : TypeId} {inside : Guard → String × Guard} (h : Metered (id :: path) inside) :
    Metered path (Immutability.watched id inside) := by
  have hrefused : ∀ {steps}, (Guard.along path 0 steps).admits id = false →
      Immutability.watched id inside (.along path 0 steps) = (elided, .along path 0 (steps + 1)) := by
    intro steps hrefused
    have henter : Warden.enter (Guard.along path 0 steps) id = _ := Guard.enter_of_refuses hrefused
    rw [watched_of_refused inside (congrArg Prod.fst henter), henter]
    rfl
  have hadmitted : ∀ {steps text spent}, (Guard.along path 0 steps).admits id = true →
      inside (.along (id :: path) 0 (steps + 1)) = (text, .along (id :: path) 0 spent) →
      Immutability.watched id inside (.along path 0 steps) = (text, .along path 0 spent) := by
    intro steps text spent hadmitted hinside
    have henter : Warden.enter (Guard.along path 0 steps) id = _ := Guard.enter_along hadmitted
    rw [watched_of_admitted inside (congrArg Prod.fst henter), henter, hinside]
    exact congrArg (Prod.mk text) Guard.leave_along
  intro steps
  cases hadmits : (Guard.along path 0 steps).admits id with
  | false =>
    refine ⟨elided, 1, hrefused hadmits, fun later hle => ⟨fun hfits => hrefused ?_, fun hspent => ?_⟩⟩
    · exact Guard.refuses_later hadmits (by omega)
    · cases hagain : (Guard.along path 0 later).admits id with
      | false => exact ⟨elided, later + 1, hrefused hagain, hspent⟩
      | true =>
        obtain ⟨text, cost, hinside, _⟩ := h (later + 1)
        exact ⟨text, later + 1 + cost, hadmitted hagain hinside, by omega⟩
  | true =>
    obtain ⟨text, cost, hinside, hlater⟩ := h (steps + 1)
    refine ⟨text, 1 + cost, ?_, fun later hle => ⟨fun hfits => ?_, fun hspent => ?_⟩⟩
    · rw [← Nat.add_assoc]
      exact hadmitted hadmits hinside
    · rw [← Nat.add_assoc]
      exact hadmitted (Guard.admits_later hadmits (by omega))
        ((hlater (later + 1) (by omega)).1 (by omega))
    · cases hagain : (Guard.along path 0 later).admits id with
      | false =>
        -- The type was admitted before, so it is for want of steps that it is refused now.
        have hout : ¬ later < Limits.typeNameSteps := fun hroom =>
          Bool.false_ne_true (hagain.symm.trans (Guard.admits_later hadmits hroom))
        exact ⟨elided, later + 1, hrefused hagain, by omega⟩
      | true =>
        obtain ⟨found, spent, hfound, hused⟩ := (hlater (later + 1) (by omega)).2 (by omega)
        exact ⟨found, spent, hadmitted hagain hfound, hused⟩

theorem writeAll (h : ∀ id, Metered path (write id)) (before : String) (pieces : List Piece) :
    Metered path (Piece.writeAll write before pieces) := by
  induction pieces generalizing before with
  | nil => exact pure path before
  | cons piece rest ih =>
    cases piece with
    | text fixed => exact ih (before ++ fixed)
    | type id => exact (h id).bind fun inner => ih (before ++ inner)

theorem writeArguments (h : ∀ id, Metered path (write id)) (owner : TypeId) (name : String)
    (arguments : List TypeId) :
    Metered path (Immutability.writeArguments write owner name arguments) := by
  induction arguments with
  | nil => exact pure path []
  | cons id rest ih =>
    have hfirst : Metered path fun guard => if id = owner then (name, guard) else write id guard := by
      split
      · exact pure path name
      · exact h id
    exact hfirst.bind fun text => ih.map (text :: ·)

theorem writeApplied? (h : ∀ id, Metered path (write id)) (owner : TypeId) (name : Option String)
    (arguments : List TypeId) :
    Metered path (Immutability.writeApplied? write owner name arguments) := by
  unfold Immutability.writeApplied?
  split
  · exact pure path none
  · exact pure path none
  · next name _ =>
    exact (writeArguments h owner name arguments).map fun texts =>
      some (name ++ "<" ++ ", ".intercalate texts ++ ">")

theorem declaredNames (store : Store) (h : ∀ id, Metered path (write id)) (id : TypeId) :
    Metered path (store.declaredNames write id) := by
  have hname := writeApplied? h id (store.declaredName? id) (store.typeArguments id)
  have halias := writeApplied? h id ((store.namedAlias? id).map (·.1))
    (((store.aliasOf? id).map (·.arguments)).getD [])
  exact hname.bind fun nameWithArguments => halias.map fun aliasWithArguments =>
    ({ name := store.declaredName? id, nameWithArguments,
       aliasName := (store.namedAlias? id).map (·.1), aliasWithArguments, evaluated := "" } : TypeName)

theorem format (store : Store) (room : Nat) (path : List TypeId) (id : TypeId) :
    Metered path (store.format room id) := by
  induction room generalizing path id with
  | zero => exact pure path elided
  | succ room ih => exact watched (writeAll (ih (id :: path)) "" (store.layout id))

theorem formatArgument (store : Store) (room : Nat) (path : List TypeId) (id : TypeId) :
    Metered path (store.formatArgument room id) := by
  induction room generalizing path id with
  | zero => exact pure path elided
  | succ room ih =>
    have hnames := declaredNames store (ih (id :: path)) id
    have hlayout := writeAll (format store room (id :: path)) "" (store.layout id)
    exact watched (hnames.bind fun names => hlayout.map fun evaluated =>
      { names with evaluated }.asArgument)

theorem describe (store : Store) (ref : TypeRef) : Metered [] (store.describe ref) := by
  have hnames := declaredNames store (formatArgument store renderingRoom []) ref.id
  have htext := format store renderingRoom [] ref.id
  exact hnames.bind fun names => htext.map fun evaluated =>
    { names with evaluated, written := ref.node.bind store.written? }

end Metered

namespace Store

variable {steps : Nat}

def perform (store : Store) : Job → Guard → (String ⊕ TypeName) × Guard :=
  store.performOver store.render (store.formatArgument renderingRoom)

def cost (store : Store) (job : Job) : Nat := (store.perform job {}).2.steps

def costs (store : Store) : List Job → Nat
  | [] => 0
  | job :: rest => store.cost job + store.costs rest

theorem costs_replicate (store : Store) (number : Nat) (job : Job) :
    store.costs (List.replicate number job) = number * store.cost job := by
  induction number with
  | zero => rw [List.replicate_zero, costs, Nat.zero_mul]
  | succ number ih => rw [List.replicate_succ, costs, ih, Nat.succ_mul, Nat.add_comm]

theorem metered_perform (store : Store) (job : Job) : Metered [] (store.perform job) := by
  cases job with
  | text id => exact (Metered.format store renderingRoom [] id).map Sum.inl
  | names ref => exact (Metered.describe store ref).map Sum.inr

/-- A job that there are enough steps for is done as by a new formatter. One that there are not enough
steps for uses them up. -/
theorem perform_along (store : Store) (job : Job) (steps : Nat) :
    (steps + store.cost job ≤ Limits.typeNameSteps →
      store.perform job (.along [] 0 steps) =
        ((store.perform job {}).1, .along [] 0 (steps + store.cost job))) ∧
    (Limits.typeNameSteps ≤ steps + store.cost job →
      ∃ answer spent, store.perform job (.along [] 0 steps) = (answer, .along [] 0 spent) ∧
        Limits.typeNameSteps ≤ spent) := by
  obtain ⟨answer, cost, hnew, hlater⟩ := store.metered_perform job 0
  have hfresh : store.perform job {} = (answer, .along [] 0 (0 + cost)) := hnew
  have hcost : store.cost job = cost := by
    rw [Store.cost, hfresh]
    exact Nat.zero_add cost
  rw [hcost, hfresh]
  exact hlater steps (Nat.zero_le steps)

theorem exists_serve_along (store : Store) (jobs : List Job) (steps : Nat) :
    ∃ spent, (store.serve jobs (Guard.along [] 0 steps)).2 = .along [] 0 spent ∧ steps ≤ spent := by
  induction jobs generalizing steps with
  | nil => exact ⟨steps, rfl, Nat.le_refl steps⟩
  | cons job rest ih =>
    obtain ⟨answer, cost, hfirst, _⟩ := store.metered_perform job steps
    obtain ⟨spent, hspent, hle⟩ := ih (steps + cost)
    refine ⟨spent, ?_, by omega⟩
    change (store.serve rest (store.perform job (.along [] 0 steps)).2).2 = _
    rw [hfirst, hspent]

/-- As long as there are steps for all of them, jobs take what they take new formatters. -/
theorem serve_along (store : Store) (jobs : List Job)
    (h : steps + store.costs jobs ≤ Limits.typeNameSteps) :
    (store.serve jobs (Guard.along [] 0 steps)).2 = .along [] 0 (steps + store.costs jobs) := by
  induction jobs generalizing steps with
  | nil => rfl
  | cons job rest ih =>
    rw [costs, ← Nat.add_assoc] at h ⊢
    change (store.serve rest (store.perform job (.along [] 0 steps)).2).2 = _
    rw [(store.perform_along job steps).1 (by omega), ih h]

/-- Jobs that take new formatters as many steps as there are left use them up. -/
theorem serve_spent (store : Store) (jobs : List Job)
    (h : Limits.typeNameSteps ≤ steps + store.costs jobs) :
    ∃ spent, (store.serve jobs (Guard.along [] 0 steps)).2 = .along [] 0 spent ∧
      Limits.typeNameSteps ≤ spent := by
  induction jobs generalizing steps with
  | nil => exact ⟨steps, rfl, h⟩
  | cons job rest ih =>
    rw [costs] at h
    change ∃ spent, (store.serve rest (store.perform job (.along [] 0 steps)).2).2 = _ ∧ _
    by_cases hfits : steps + store.cost job ≤ Limits.typeNameSteps
    · rw [(store.perform_along job steps).1 hfits]
      exact ih (by omega)
    · obtain ⟨answer, used, hfirst, hused⟩ := (store.perform_along job steps).2 (by omega)
      obtain ⟨spent, hspent, hle⟩ := store.exists_serve_along rest used
      rw [hfirst]
      exact ⟨spent, hspent, by omega⟩

theorem render_of_spent (store : Store) (id : TypeId) (h : Limits.typeNameSteps ≤ steps) :
    store.render id (Guard.along [] 0 steps) = (elided, .along [] 0 (steps + 1)) :=
  store.format_of_refused (Nat.succ_pos _) (Guard.refuses_of_spent h)

/-- Without steps, a type is written as three dots, whatever names it has. -/
theorem evaluated_of_spent (store : Store) (ref : TypeRef) (h : Limits.typeNameSteps ≤ steps) :
    (store.describe ref (Guard.along [] 0 steps)).1.evaluated = elided := by
  obtain ⟨names, cost, hnames, _⟩ := Metered.declaredNames store
    (Metered.formatArgument store renderingRoom []) ref.id steps
  simp only [describe, describeOver]
  rw [hnames, store.render_of_spent ref.id (by omega)]

/-- What a formatter did before leaves nothing but the number of steps that it took. It does a job as a new
formatter does if all that it did and the job itself cost new formatters no more than ten thousand steps.
If what it did cost them ten thousand or more, it writes every type as three dots. -/
theorem perform_within_budget (store : Store) (before : List Job) (job : Job) :
    let guard := (store.serve before ({} : Guard)).2
    guard = { steps := guard.steps } ∧
    (store.costs before ≤ 10000 → guard.steps = store.costs before) ∧
    (store.costs before + store.cost job ≤ 10000 →
      (store.perform job guard).1 = (store.perform job {}).1) ∧
    (10000 ≤ store.costs before →
      (∀ id, (store.perform (.text id) guard).1 = .inl "...") ∧
      ∀ ref, ∃ names, (store.perform (.names ref) guard).1 = .inr names ∧
        names.evaluated = "...") := by
  intro guard
  have hwithin : store.costs before ≤ 10000 → guard = .along [] 0 (store.costs before) := by
    intro hcosts
    have hserve := @serve_along 0 store before (by rwa [Nat.zero_add])
    rwa [Nat.zero_add] at hserve
  refine ⟨?_, fun hcosts => congrArg Guard.steps (hwithin hcosts), fun hcosts => ?_, fun hcosts => ?_⟩
  · obtain ⟨spent, hspent, _⟩ := store.exists_serve_along before 0
    have hguard : guard = .along [] 0 spent := hspent
    rw [hguard]
    rfl
  · rw [hwithin (by omega), (store.perform_along job (store.costs before)).1 hcosts]
  · obtain ⟨spent, hspent, hused⟩ := @serve_spent 0 store before (by rwa [Nat.zero_add])
    have hguard : guard = .along [] 0 spent := hspent
    rw [hguard]
    refine ⟨fun id => ?_, fun ref => ⟨_, rfl, store.evaluated_of_spent ref hused⟩⟩
    exact congrArg (fun written => Sum.inl written.1) (store.render_of_spent id hused)

/-- A record that shows itself is written three times. -/
theorem perform_within_budget_coil :
    let before : List Job := [.text ⟨14⟩, .names { id := ⟨14⟩ }]
    coil.costs before = 6 ∧ coil.cost (.text ⟨14⟩) = 3 ∧
    (coil.perform (.text ⟨14⟩) (coil.serve before ({} : Guard)).2).1 =
      (coil.perform (.text ⟨14⟩) {}).1 := by
  intro before
  have hcosts : coil.costs before = 6 := by decide +kernel
  have hcost : coil.cost (.text ⟨14⟩) = 3 := by decide +kernel
  obtain ⟨-, -, hsame, -⟩ := perform_within_budget coil before (.text ⟨14⟩)
  exact ⟨hcosts, hcost, hsame (by rw [hcosts, hcost]; decide)⟩

/-- After ten thousand types a formatter is spent, and the next one is written as three dots. -/
theorem perform_past_budget :
    let store := new defaultProgram
    let job : Job := .text Intrinsic.number.id
    let before := List.replicate 10000 job
    (store.perform job {}).1 = .inl "number" ∧
    (store.perform job (store.serve before ({} : Guard)).2).1 = .inl "..." := by
  intro store job before
  have hcost : store.cost job = 1 := by decide +kernel
  have hsum : store.costs before = 10000 := by rw [costs_replicate, hcost]
  have hserve := @serve_along 0 store before (by rw [hsum]; decide)
  rw [hsum] at hserve
  have hguard : (store.serve before ({} : Guard)).2 = .along [] 0 (0 + 10000) := hserve
  refine ⟨by decide +kernel, ?_⟩
  rw [hguard]
  exact congrArg (fun written => Sum.inl written.1)
    (store.render_of_spent Intrinsic.number.id (Nat.le_refl _))

end Store

end Immutability
