import Immutability.Proofs.WriterAgreement
import Immutability.Store.Build
import Mathlib.Data.List.Infix

/-!
# Descents under a guard

Writing a type descends into the types inside it, and a guard is asked before each of them. A record of
the uses of a guard tells the whole of its life. To have one, the types are written a second time, in a
state that consists of a guard and its record. Both runs are compared step by step, with a relation
between their states that follows the path of the descent: the guards are the same, the open types are
the path, and all uses so far have been in order.

The relation bounds the path too. There is no state that it relates when the room for the descent has run
out, so nothing depends on what would be written there.
-/

set_option autoImplicit false

namespace Immutability

/-! ### Descents -/

section

variable {γ δ : Type} [Warden γ] [Warden δ]

theorem watched_of_refused {id : TypeId} {state : γ} (inside : γ → String × γ)
    (h : (Warden.enter state id).1 = false) :
    watched id inside state = (elided, (Warden.enter state id).2) := by
  unfold watched
  split
  · next hrefused => rw [hrefused]
  · next hadmitted =>
    rw [hadmitted] at h
    cases h

theorem watched_of_admitted {id : TypeId} {state : γ} (inside : γ → String × γ)
    (h : (Warden.enter state id).1 = true) :
    watched id inside state = ((inside (Warden.enter state id).2).1,
      Warden.leave (inside (Warden.enter state id).2).2 id) := by
  unfold watched
  split
  · next hrefused =>
    rw [hrefused] at h
    cases h
  · next hadmitted => rw [hadmitted]

/-- A relation between the states of two descents, which depends on the room that is left and on the path
of types that have been entered. No states are related where there is no room. -/
structure Descends (related : Nat → List TypeId → γ → δ → Prop) : Prop where
  enter : ∀ {room path state twin} (id : TypeId), related (room + 1) path state twin →
    (Warden.enter state id).1 = (Warden.enter twin id).1
  refused : ∀ {room path state twin id}, related (room + 1) path state twin →
    (Warden.enter state id).1 = false →
    related (room + 1) path (Warden.enter state id).2 (Warden.enter twin id).2
  admitted : ∀ {room path state twin id}, related (room + 1) path state twin →
    (Warden.enter state id).1 = true →
    related room (id :: path) (Warden.enter state id).2 (Warden.enter twin id).2
  leave : ∀ {room path state twin id}, related room (id :: path) state twin →
    related (room + 1) path (Warden.leave state id) (Warden.leave twin id)
  roomy : ∀ {path state twin}, ¬ related 0 path state twin

namespace Descends

variable {related : Nat → List TypeId → γ → δ → Prop}

theorem alike (h : Descends related) {room : Nat} {path : List TypeId} {id : TypeId} {state : γ}
    {twin : δ} {inside : γ → String × γ} {other : δ → String × δ}
    (hinside : ∀ state twin, related room (id :: path) state twin →
      SameAnswer (related room (id :: path)) (inside state) (other twin))
    (hstate : related (room + 1) path state twin) :
    SameAnswer (related (room + 1) path) (watched id inside state) (watched id other twin) := by
  have henter := h.enter id hstate
  cases hentered : (Warden.enter state id).1 with
  | false =>
    rw [watched_of_refused inside hentered, watched_of_refused other (henter.symm.trans hentered)]
    exact ⟨rfl, h.refused hstate hentered⟩
  | true =>
    rw [watched_of_admitted inside hentered, watched_of_admitted other (henter.symm.trans hentered)]
    obtain ⟨htext, hnext⟩ := hinside _ _ (h.admitted hstate hentered)
    exact ⟨htext, h.leave hnext⟩

end Descends

namespace Store

/-- Writes a type with room for some levels. What lies below them is written by `bottom`. -/
def formatFrom (store : Store) (bottom : Writer γ) : Nat → Writer γ
  | 0 => bottom
  | room + 1 => store.formatOver (store.formatFrom bottom room)

def argumentFrom (store : Store) (bottom bottomArgument : Writer γ) : Nat → Writer γ
  | 0 => bottomArgument
  | room + 1 =>
    store.argumentOver (store.formatFrom bottom room) (store.argumentFrom bottom bottomArgument room)

theorem format_eq_formatFrom (store : Store) (room : Nat) :
    (store.format room : Writer γ) = store.formatFrom (fun _ state => (elided, state)) room := by
  induction room with
  | zero => rfl
  | succ room ih => rw [format, ih, formatFrom]

theorem formatArgument_eq_argumentFrom (store : Store) (room : Nat) :
    (store.formatArgument room : Writer γ) =
      store.argumentFrom (fun _ state => (elided, state)) (fun _ state => (elided, state)) room := by
  induction room with
  | zero => rfl
  | succ room ih => rw [formatArgument, ih, format_eq_formatFrom, argumentFrom]

variable {related : Nat → List TypeId → γ → δ → Prop}

theorem formatFrom_follows (store : Store) (h : Descends related) (bottom : Writer γ) (other : Writer δ)
    (room : Nat) (path ids : List TypeId) :
    Writer.Agrees (related room path) ids (store.formatFrom bottom room)
      (store.formatFrom other room) := by
  induction room generalizing path ids with
  | zero => exact fun _ _ _ _ hstate => absurd hstate h.roomy
  | succ room ih =>
    intro id _ state twin hstate
    apply h.alike _ hstate
    intro state twin hstate
    exact writeAll_sameAnswer (ih (id :: path) _) "" hstate

theorem argumentFrom_follows (store : Store) (h : Descends related) (bottom bottomArgument : Writer γ)
    (other otherArgument : Writer δ) (room : Nat) (path ids : List TypeId) :
    Writer.Agrees (related room path) ids (store.argumentFrom bottom bottomArgument room)
      (store.argumentFrom other otherArgument room) := by
  induction room generalizing path ids with
  | zero => exact fun _ _ _ _ hstate => absurd hstate h.roomy
  | succ room ih =>
    intro id _ state twin hstate
    apply h.alike _ hstate
    intro state twin hstate
    obtain ⟨hnames, hnext⟩ := declaredNames_sameAnswer (ih (id :: path)) id hstate
    obtain ⟨htext, hlast⟩ := writeAll_sameAnswer
      (formatFrom_follows store h bottom other room (id :: path) _) "" hnext
    refine ⟨?_, hlast⟩
    simp only
    rw [hnames, htext]

end Store

end

/-! ### The uses of a guard -/

inductive Use where
  | enter (id : TypeId)
  | leave (id : TypeId)
deriving DecidableEq, Repr

def Use.isEnter : Use → Bool
  | enter _ => true
  | leave _ => false

namespace Guard

variable {guard : Guard} {id : TypeId}

def use (guard : Guard) : Use → Guard
  | .enter id => (guard.enter id).2
  | .leave id => guard.leave id

def replay (guard : Guard) (uses : List Use) : Guard := uses.foldl use guard

def letIn (guard : Guard) : List Use → Nat
  | [] => 0
  | .enter id :: rest => (guard.enter id).1.toNat + (guard.enter id).2.letIn rest
  | .leave id :: rest => (guard.leave id).letIn rest

theorem replay_concat (guard : Guard) (uses : List Use) (last : Use) :
    guard.replay (uses ++ [last]) = (guard.replay uses).use last := by
  rw [replay, List.foldl_concat, replay]

theorem steps_replay (guard : Guard) (uses : List Use) :
    (guard.replay uses).steps = guard.steps + uses.countP Use.isEnter := by
  induction uses generalizing guard with
  | nil => rfl
  | cons first rest ih =>
    rw [replay, List.foldl_cons]
    refine (ih _).trans ?_
    cases first with
    | enter id =>
      rw [use, steps_enter, List.countP_cons_of_pos rfl]
      omega
    | leave id =>
      rw [List.countP_cons_of_neg (by simp [Use.isEnter])]
      rfl

theorem enter_of_admits (h : guard.admits id = true) :
    guard.enter id = (true, { guard with
      opened := id :: guard.opened, depth := guard.depth + 1, steps := guard.steps + 1 }) := by
  simp [enter, h]

theorem enter_of_refuses (h : guard.admits id = false) :
    guard.enter id = (false, { guard with steps := guard.steps + 1 }) := by
  simp [enter, h]

theorem fst_enter (guard : Guard) (id : TypeId) : (guard.enter id).1 = guard.admits id := by
  cases h : guard.admits id with
  | false => rw [enter_of_refuses h]
  | true => rw [enter_of_admits h]

theorem steps_lt_of_admits (h : guard.admits id = true) : guard.steps < Limits.typeNameSteps := by
  simp only [admits, Bool.and_eq_true, decide_eq_true_eq] at h
  exact h.1.1.1

/-- Every type that is let in takes a step off the budget. -/
theorem letIn_le (guard : Guard) (uses : List Use) :
    guard.letIn uses ≤ Limits.typeNameSteps - guard.steps := by
  induction uses generalizing guard with
  | nil => exact Nat.zero_le _
  | cons first rest ih =>
    cases first with
    | enter id =>
      have hrest := ih (guard.enter id).2
      rw [steps_enter] at hrest
      rw [letIn, fst_enter]
      cases h : guard.admits id with
      | false =>
        simp only [Bool.toNat_false]
        omega
      | true =>
        have hsteps := steps_lt_of_admits h
        simp only [Bool.toNat_true]
        omega
    | leave id => exact ih (guard.leave id)

/-- The depth is the number of open types and within its limit. -/
structure InLimits (guard : Guard) : Prop where
  nodup : guard.opened.Nodup
  depth : guard.depth = guard.opened.length
  fits : guard.depth ≤ Limits.typeNameDepth

/-- The limit on the number of open types decides nothing if no more types are open than the depth
allows. -/
theorem admits_iff (hfits : guard.opened.length ≤ Limits.typeNameDepth) :
    guard.admits id = true ↔ guard.steps < Limits.typeNameSteps ∧
      guard.depth < Limits.typeNameDepth ∧ id ∉ guard.opened := by
  have hopen : guard.opened.length < Limits.typeNameOpen := Nat.lt_of_le_of_lt hfits (by decide)
  simp [admits, hopen, and_assoc]

/-- The open types of a guard are a path, the last one first. -/
structure OnPath (guard : Guard) (path : List TypeId) (unmatched : Nat) : Prop where
  opened : guard.opened = path
  depth : guard.depth = path.length
  unmatched : guard.unmatched = unmatched

namespace OnPath

variable {path : List TypeId} {unmatched : Nat}

theorem inLimits (h : guard.OnPath path unmatched) (hnodup : path.Nodup)
    (hfits : path.length ≤ Limits.typeNameDepth) : guard.InLimits where
  nodup := h.opened ▸ hnodup
  depth := by rw [h.depth, h.opened]
  fits := h.depth ▸ hfits

theorem refused (h : guard.OnPath path unmatched) (hrefused : guard.admits id = false) :
    (guard.use (.enter id)).OnPath path unmatched := by
  rw [use, enter_of_refuses hrefused]
  exact ⟨h.opened, h.depth, h.unmatched⟩

theorem admitted (h : guard.OnPath path unmatched) (hadmitted : guard.admits id = true) :
    (guard.use (.enter id)).OnPath (id :: path) unmatched := by
  rw [use, enter_of_admits hadmitted]
  exact ⟨congrArg (id :: ·) h.opened, congrArg (· + 1) h.depth, h.unmatched⟩

theorem leave (h : guard.OnPath (id :: path) unmatched) :
    (guard.use (.leave id)).OnPath path unmatched := by
  constructor
  · simp [use, Guard.leave, h.opened]
  · simp [use, Guard.leave, h.depth]
  · simp [use, Guard.leave, h.opened, h.unmatched]

end OnPath

/-- Uses of a guard that were in order: the guard was within its limits all the time, and each type that
was left had been open. -/
structure Disciplined (start : Guard) (uses : List Use) : Prop where
  inLimits : ∀ before, before <+: uses → (start.replay before).InLimits
  left : ∀ before id, before ++ [.leave id] <+: uses → id ∈ (start.replay before).opened

theorem disciplined_nil (h : guard.InLimits) : guard.Disciplined [] where
  inLimits before hbefore := by
    rw [List.prefix_nil.mp hbefore]
    exact h
  left before id hbefore := by simp at hbefore

theorem Disciplined.concat {uses : List Use} {last : Use} (h : guard.Disciplined uses)
    (hlimits : ((guard.replay uses).use last).InLimits)
    (hleft : ∀ id, last = .leave id → id ∈ (guard.replay uses).opened) :
    guard.Disciplined (uses ++ [last]) where
  inLimits before hbefore := by
    rcases List.prefix_concat_iff.mp hbefore with rfl | hbefore
    · rwa [replay_concat]
    · exact h.inLimits before hbefore
  left before id hbefore := by
    rcases List.prefix_concat_iff.mp hbefore with heq | hbefore
    · obtain ⟨rfl, hlast⟩ := List.append_inj' heq rfl
      exact hleft id (List.singleton_inj.mp hlast).symm
    · exact h.left before id hbefore

/-- What the uses of a guard come to if they are in order. -/
structure Balanced (start : Guard) (uses : List Use) : Prop where
  /-- The depth is always the number of open types, and at most eight. -/
  depth : ∀ before, before <+: uses → (start.replay before).opened.Nodup ∧
    (start.replay before).depth = (start.replay before).opened.length ∧ (start.replay before).depth ≤ 8
  /-- How many types are open makes no difference by itself. -/
  decided : ∀ before id, before ++ [.enter id] <+: uses →
    (((start.replay before).enter id).1 = true ↔ (start.replay before).steps < 10000 ∧
      (start.replay before).depth < 8 ∧ id ∉ (start.replay before).opened)
  left : ∀ before id, before ++ [.leave id] <+: uses → id ∈ (start.replay before).opened
  budget : start.letIn uses ≤ 10000 - start.steps
  /-- No type is let in once the budget is spent. -/
  spent : ∀ before id, before ++ [.enter id] <+: uses →
    10000 ≤ start.steps + before.countP Use.isEnter → ((start.replay before).enter id).1 = false

theorem Disciplined.balanced {uses : List Use} (h : guard.Disciplined uses) : guard.Balanced uses where
  depth before hbefore :=
    have hlimits := h.inLimits before hbefore
    ⟨hlimits.nodup, hlimits.depth, hlimits.fits⟩
  decided before id hbefore := by
    have hlimits := h.inLimits before ((List.prefix_append _ _).trans hbefore)
    rw [fst_enter]
    exact admits_iff (hlimits.depth ▸ hlimits.fits)
  left := h.left
  budget := guard.letIn_le uses
  spent before id _ hspent := by
    rw [fst_enter, Bool.eq_false_iff]
    intro hadmitted
    have hsteps := steps_lt_of_admits hadmitted
    rw [steps_replay] at hsteps
    exact Nat.not_lt_of_le hspent hsteps

end Guard

/-! ### Guards with a record -/

/-- A guard with a record of its uses, the first one first. -/
structure Logged where
  guard : Guard
  uses : List Use := []

instance : Warden Logged where
  enter log id := ((log.guard.enter id).1, ⟨(log.guard.enter id).2, log.uses ++ [.enter id]⟩)
  leave log id := ⟨log.guard.leave id, log.uses ++ [.leave id]⟩

/-- A guard with a record and a guard without one have come to the same state. A path is open, and there
is room to go on. -/
structure Tracked (start : Guard) (room : Nat) (path : List TypeId) (log : Logged) (guard : Guard) :
    Prop where
  same : log.guard = guard
  replayed : start.replay log.uses = guard
  disciplined : start.Disciplined log.uses
  onPath : guard.OnPath path start.unmatched
  nodup : path.Nodup
  fits : path.length ≤ Limits.typeNameDepth
  roomy : Limits.typeNameDepth < path.length + room

namespace Tracked

variable {start guard : Guard} {room : Nat} {path : List TypeId} {log : Logged}

theorem step {later : Nat} {ahead : List TypeId} {last : Use} (h : Tracked start room path log guard)
    (honPath : (guard.use last).OnPath ahead start.unmatched) (hnodup : ahead.Nodup)
    (hfits : ahead.length ≤ Limits.typeNameDepth) (hroomy : Limits.typeNameDepth < ahead.length + later)
    (hleft : ∀ id, last = .leave id → id ∈ path) :
    Tracked start later ahead ⟨log.guard.use last, log.uses ++ [last]⟩ (guard.use last) where
  same := by rw [h.same]
  replayed := by rw [Guard.replay_concat, h.replayed]
  disciplined := by
    apply h.disciplined.concat
    · rw [h.replayed]
      exact honPath.inLimits hnodup hfits
    · rwa [h.replayed, h.onPath.opened]
  onPath := honPath
  nodup := hnodup
  fits := hfits
  roomy := hroomy

theorem descends (start : Guard) : Descends (Tracked start) where
  enter id h := by
    change (Guard.enter _ id).1 = _
    rw [h.same]
    rfl
  refused {room path log guard id} h hrefused := by
    change (log.guard.enter id).1 = false at hrefused
    rw [h.same, Guard.fst_enter] at hrefused
    apply h.step (h.onPath.refused hrefused) h.nodup h.fits h.roomy
    intro other hother
    cases hother
  admitted {room path log guard id} h hadmitted := by
    change (log.guard.enter id).1 = true at hadmitted
    rw [h.same, Guard.fst_enter] at hadmitted
    obtain ⟨-, hdepth, hnew⟩ := (Guard.admits_iff (h.onPath.opened ▸ h.fits)).mp hadmitted
    have hroomy := h.roomy
    rw [h.onPath.depth] at hdepth
    rw [h.onPath.opened] at hnew
    apply h.step (h.onPath.admitted hadmitted)
    · exact List.nodup_cons.mpr ⟨hnew, h.nodup⟩
    · exact hdepth
    · rw [List.length_cons]
      omega
    · intro other hother
      cases hother
  leave {room path log guard id} h := by
    have hfits := h.fits
    have hroomy := h.roomy
    rw [List.length_cons] at hfits hroomy
    apply h.step h.onPath.leave
    · exact (List.nodup_cons.mp h.nodup).2
    · omega
    · omega
    · intro other hother
      cases hother
      exact List.mem_cons_self
  roomy h := Nat.not_le_of_lt h.roomy h.fits

end Tracked

/-! ### The life of a formatter -/

inductive Job where
  | text (id : TypeId)
  | names (ref : TypeRef)
deriving DecidableEq, Repr

namespace Store

section

variable {γ δ : Type}

def performOver (store : Store) (write writeArgument : Writer γ) :
    Job → γ → (String ⊕ TypeName) × γ
  | .text id, state =>
    let (text, state) := write id state
    (.inl text, state)
  | .names ref, state =>
    let (names, state) := store.describeOver write writeArgument ref state
    (.inr names, state)

def serveOver (store : Store) (write writeArgument : Writer γ) :
    List Job → γ → List (String ⊕ TypeName) × γ
  | [], state => ([], state)
  | job :: rest, state =>
    let (answer, state) := store.performOver write writeArgument job state
    let (answers, state) := store.serveOver write writeArgument rest state
    (answer :: answers, state)

theorem serveOver_sameAnswer {related : γ → δ → Prop} {write writeArgument : Writer γ}
    {other otherArgument : Writer δ} (store : Store) (h : ∀ ids, Writer.Agrees related ids write other)
    (harguments : ∀ ids, Writer.Agrees related ids writeArgument otherArgument) (jobs : List Job)
    {state : γ} {twin : δ} (hstate : related state twin) :
    SameAnswer related (store.serveOver write writeArgument jobs state)
      (store.serveOver other otherArgument jobs twin) := by
  induction jobs generalizing state twin with
  | nil => exact ⟨rfl, hstate⟩
  | cons job rest ih =>
    have hfirst : SameAnswer related (store.performOver write writeArgument job state)
        (store.performOver other otherArgument job twin) := by
      cases job with
      | text id =>
        obtain ⟨htext, hnext⟩ := h [id] id List.mem_cons_self state twin hstate
        exact ⟨congrArg Sum.inl htext, hnext⟩
      | names ref =>
        obtain ⟨hnames, hnext⟩ := describeOver_sameAnswer h harguments ref hstate
        exact ⟨congrArg Sum.inr hnames, hnext⟩
    obtain ⟨hanswers, hnext⟩ := ih hfirst.2
    exact ⟨List.cons_eq_cons.mpr ⟨hfirst.1, hanswers⟩, hnext⟩

end

def serve {γ : Type} [Warden γ] (store : Store) : List Job → γ → List (String ⊕ TypeName) × γ :=
  store.serveOver store.render (store.formatArgument renderingRoom)

example (store : Store) (ref : TypeRef) :
    (store.serve [.names ref] ({} : Guard)).1 = [.inr (store.typeName ref)] := rfl

/-- What a formatter with a record does, and a formatter that may write anything below its room. -/
theorem serve_tracked (store : Store) (bottom bottomArgument : Writer Guard) (jobs : List Job)
    {start : Guard} {log : Logged} {guard : Guard} (h : Tracked start renderingRoom [] log guard) :
    SameAnswer (Tracked start renderingRoom []) (store.serve jobs log)
      (store.serveOver (store.formatFrom bottom renderingRoom)
        (store.argumentFrom bottom bottomArgument renderingRoom) jobs guard) := by
  have hdescends := Tracked.descends start
  rw [serve, render, format_eq_formatFrom, formatArgument_eq_argumentFrom]
  apply serveOver_sameAnswer store _ _ jobs h
  · exact formatFrom_follows store hdescends _ bottom renderingRoom []
  · exact argumentFrom_follows store hdescends _ _ bottom bottomArgument renderingRoom []

/-- A formatter whose guard has no open types ends, whatever would be written where there is no room. A
record of the guard changes nothing, and it shows that the guard was balanced all the time. -/
theorem serve_balanced (store : Store) (guard : Guard) (hopened : guard.opened = [])
    (hdepth : guard.depth = guard.opened.length) (jobs : List Job) :
    (∀ bottom bottomArgument : Writer Guard,
      store.serveOver (store.formatFrom bottom renderingRoom)
        (store.argumentFrom bottom bottomArgument renderingRoom) jobs guard =
      store.serve jobs guard) ∧
    ∃ uses, store.serve jobs ({ guard } : Logged) =
        ((store.serve jobs guard).1, ⟨(store.serve jobs guard).2, uses⟩) ∧
      (store.serve jobs guard).2 = guard.replay uses ∧ guard.Balanced uses ∧
      (store.serve jobs guard).2.OnPath [] guard.unmatched := by
  have honPath : guard.OnPath [] guard.unmatched := ⟨hopened, by rw [hdepth, hopened], rfl⟩
  have hlimits := honPath.inLimits List.nodup_nil (Nat.zero_le _)
  have hstart : Tracked guard renderingRoom [] { guard } guard :=
    ⟨rfl, rfl, Guard.disciplined_nil hlimits, honPath, List.nodup_nil, Nat.zero_le _, by decide⟩
  have hany := fun bottom bottomArgument => serve_tracked store bottom bottomArgument jobs hstart
  obtain ⟨hanswers, htracked⟩ : SameAnswer (Tracked guard renderingRoom [])
      (store.serve jobs ({ guard } : Logged)) (store.serve jobs guard) := by
    have hplain := hany (fun _ state => (elided, state)) (fun _ state => (elided, state))
    rwa [← format_eq_formatFrom, ← formatArgument_eq_argumentFrom] at hplain
  refine ⟨fun bottom bottomArgument => ?_, _, ?_, htracked.replayed.symm, htracked.disciplined.balanced,
    htracked.onPath⟩
  · obtain ⟨hsame, hother⟩ := hany bottom bottomArgument
    exact Prod.ext (hsame.symm.trans hanswers) (hother.same.symm.trans htracked.same)
  · rw [← hanswers, ← htracked.same]

/-- A store with a record `⟨14⟩` that has itself as a property. -/
def coil : Store :=
  ((new defaultProgram).record [{ name := "next", type := ⟨14⟩ },
    { name := "size", type := Intrinsic.number.id }]).2

def worn : Guard := { steps := 9998 }

def chores : List Job := [.text ⟨14⟩, .names { id := Intrinsic.number.id }]

/-- The first step lets the record in, the second one meets it again, and then nothing is let in. -/
theorem serve_coil :
    worn.opened = [] ∧ worn.depth = 0 ∧
    (coil.serve chores worn).1 =
      [.inl "\x7b next: ...; size: ...; \x7d", .inr { name := some "number", evaluated := "..." }] ∧
    ∃ uses, coil.serve chores ({ guard := worn } : Logged) =
        ((coil.serve chores worn).1, ⟨(coil.serve chores worn).2, uses⟩) ∧
      worn.Balanced uses ∧ worn.letIn uses ≤ 2 ∧ (coil.serve chores worn).2.OnPath [] 0 := by
  obtain ⟨-, uses, hlogged, -, hbalanced, honPath⟩ := serve_balanced coil worn rfl rfl chores
  exact ⟨rfl, rfl, by decide +kernel, uses, hlogged, hbalanced, hbalanced.budget, honPath⟩

end Store

end Immutability
