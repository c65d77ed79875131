import Immutability.Proofs.Children
import Immutability.Proofs.MachineRuns
import Mathlib.Data.Set.Lattice
import Mathlib.Order.CompletePartialOrder

/-!
# Requests are local

A request reads and writes the cache under the keys of the types that are reached from its root, and
under no others. Two requests for one root, made with caches that agree on these keys, go through the
same moves side by side. Only the caches differ between them, and only where neither ever looks.

The keys are closed under everything that a walk asks for, since all of it comes from `children`.
-/

set_option autoImplicit false

namespace Immutability

def Cache.AgreeOn (keys : Set CacheKey) (one two : Cache) : Prop :=
  ∀ key ∈ keys, one.get? key = two.get? key

namespace Cache.AgreeOn

variable {keys : Set CacheKey} {one two three : Cache}

theorem refl (keys : Set CacheKey) (cache : Cache) : cache.AgreeOn keys cache := fun _ _ => rfl

theorem trans (h : one.AgreeOn keys two) (h' : two.AgreeOn keys three) : one.AgreeOn keys three :=
  fun key hkey => (h key hkey).trans (h' key hkey)

theorem lookup_eq (h : one.AgreeOn keys two) {key : CacheKey} (hkey : key ∈ keys)
    (threshold : Status) : one.lookup key threshold = two.lookup key threshold := by
  unfold Cache.lookup
  rw [h key hkey]

end Cache.AgreeOn

/-- Two requests end alike: with the same fault, or with the same status, found in the same way, and
with caches that agree on some keys. -/
inductive EndAlike (keys : Set CacheKey) :
    Except Fault (Machine.Answer Unit) → Except Fault (Machine.Answer Unit) → Prop where
  | failed (fault : Fault) : EndAlike keys (.error fault) (.error fault)
  | answered {one two : Machine.Answer Unit} :
      one.status = two.status → one.cacheHit = two.cacheHit →
      one.context.cache.AgreeOn keys two.context.cache → EndAlike keys (.ok one) (.ok two)

namespace TypeGraph

def reachableKeys (graph : TypeGraph) (root : TypeRef) : Set CacheKey :=
  {key | ∃ ref, graph.Reaches root ref ∧ graph.Files ref key}

variable {graph : TypeGraph} {rules : List Rule} {root ref child : TypeRef} {threshold : Level}
  {keys : Set CacheKey} {cache final one two : Cache} {entry : Entry} {entered : Entered}
  {frame : Frame} {task : Task} {answer : Option Verdict}

theorem key_mem_reachableKeys (h : graph.Reaches root ref) :
    graph.key ref ∈ graph.reachableKeys root :=
  ⟨ref, h, graph.files_key ref⟩

/-! ### Entering a type -/

theorem agreeOn_file (h : one.AgreeOn keys two) (ref : TypeRef) (entry : Entry) :
    (graph.file ref entry one).AgreeOn keys (graph.file ref entry two) := by
  intro key hkey
  rw [get?_file, get?_file, h key hkey]

theorem agreeOn_compl_file (h : graph.Reaches root ref) (entry : Entry) (cache : Cache) :
    cache.AgreeOn (graph.reachableKeys root)ᶜ (graph.file ref entry cache) := by
  intro key hkey
  have hother : ¬ graph.Files ref key := fun hfiles => hkey ⟨ref, h, hfiles⟩
  rw [get?_file, if_neg hother]

theorem agreeOn_compl_enter (h : graph.Reaches root ref)
    (he : graph.enter rules ref threshold cache = (entered, final)) :
    cache.AgreeOn (graph.reachableKeys root)ᶜ final := by
  cases enters_of_enter he with
  | hit => exact .refl _ _
  | nothing => exact .refl _ _
  | forced => exact agreeOn_compl_file h _ _
  | leaf => exact (agreeOn_compl_file h _ _).trans (agreeOn_compl_file h _ _)
  | walk => exact agreeOn_compl_file h _ _

theorem agreeOn_visit (h : one.AgreeOn keys two)
    (hv : graph.visit rules ref threshold one = (entered, final)) :
    ∃ other, graph.visit rules ref threshold two = (entered, other) ∧ final.AgreeOn keys other := by
  unfold visit at hv ⊢
  cases hd : graph.demand rules ref threshold with
  | nothing =>
    rw [hd] at hv
    cases hv
    exact ⟨_, rfl, h⟩
  | forced target =>
    rw [hd] at hv
    cases hv
    exact ⟨_, rfl, agreeOn_file h ref _⟩
  | judged judged pending =>
    rw [hd] at hv
    dsimp only at hv ⊢
    cases ha : graph.approach ref.id (graph.shape ref.id) judged with
    | leaf verdict =>
      rw [ha] at hv
      cases hv
      exact ⟨_, rfl, agreeOn_file (agreeOn_file h ref _) ref _⟩
    | walk task =>
      rw [ha] at hv
      cases hv
      exact ⟨_, rfl, agreeOn_file h ref _⟩

/-- A type is entered in the same way from caches that agree on its key. -/
theorem agreeOn_enter (h : one.AgreeOn keys two) (hkey : graph.key ref ∈ keys)
    (he : graph.enter rules ref threshold one = (entered, final)) :
    ∃ other, graph.enter rules ref threshold two = (entered, other) ∧ final.AgreeOn keys other := by
  have hlookup := h.lookup_eq hkey (.known threshold)
  by_cases hl : ∃ status, one.lookup (graph.key ref) (.known threshold) = .hit status
  · obtain ⟨status, hl⟩ := hl
    rw [graph.enter_hit rules hl] at he
    cases he
    exact ⟨two, graph.enter_hit rules (hlookup ▸ hl), h⟩
  · have hmiss := not_exists.mp hl
    rw [graph.enter_miss rules hmiss] at he
    rw [graph.enter_miss rules (hlookup ▸ hmiss)]
    exact agreeOn_visit h he

/-! ### Frames below a root -/

/-- A frame of a type that is reached from the root, with nothing else left to ask for. -/
def StaysBelow (graph : TypeGraph) (root : TypeRef) (frame : Frame) : Prop :=
  graph.Reaches root frame.ref ∧ ∀ child ∈ frame.task.remaining graph, graph.Reaches root child

theorem StaysBelow.await (h : graph.StaysBelow root frame)
    (hr : frame.task.resume graph.host () answer = .await child task) :
    graph.Reaches root child ∧ graph.StaysBelow root { frame with task } := by
  obtain ⟨before, hbefore⟩ := Task.resume_suffix hr
  have hmem : ∀ other ∈ child :: task.remaining graph, graph.Reaches root other := by
    intro other hother
    exact h.2 other (hbefore ▸ List.mem_append_right before hother)
  exact ⟨hmem child List.mem_cons_self,
    h.1, fun other hother => hmem other (List.mem_cons_of_mem child hother)⟩

theorem staysBelow_of_enter (h : graph.Reaches root ref)
    (he : graph.enter rules ref threshold cache = (.frame frame, final)) :
    graph.StaysBelow root frame := by
  cases enters_of_enter he with
  | walk _ _ ha => exact ⟨h, fun child hc => h.tail (mem_children_of_walk ha hc)⟩

/-- Nothing but types below the root is under way, and no entry under another key has changed. -/
structure Confined (graph : TypeGraph) (root : TypeRef) (initial : Cache) (view : View) : Prop where
  frames : ∀ frame ∈ view.stack, graph.StaysBelow root frame
  outside : initial.AgreeOn (graph.reachableKeys root)ᶜ view.cache

theorem confined_of_enter
    (he : graph.enter rules root threshold cache = (.frame frame, final)) :
    graph.Confined root cache ⟨final, [frame], none⟩ where
  frames := by
    intro other hmem
    rw [List.mem_singleton.mp hmem]
    exact staysBelow_of_enter .refl he
  outside := agreeOn_compl_enter .refl he

variable {initial : Cache} {start finish : View}

theorem Leads.confined (h : graph.Leads rules start finish)
    (hinv : graph.Confined root initial start) : graph.Confined root initial finish := by
  obtain ⟨hframes, houtside⟩ := hinv
  cases h with
  | answered hr he =>
    obtain ⟨htop, hbelow⟩ := List.forall_mem_cons.mp hframes
    obtain ⟨hchild, hrest⟩ := htop.await hr
    exact ⟨List.forall_mem_cons.mpr ⟨hrest, hbelow⟩,
      houtside.trans (agreeOn_compl_enter hchild he)⟩
  | pushed hr he =>
    obtain ⟨htop, hbelow⟩ := List.forall_mem_cons.mp hframes
    obtain ⟨hchild, hrest⟩ := htop.await hr
    have hstack := List.forall_mem_cons.mpr ⟨hrest, hbelow⟩
    exact ⟨List.forall_mem_cons.mpr ⟨staysBelow_of_enter hchild he, hstack⟩,
      houtside.trans (agreeOn_compl_enter hchild he)⟩
  | resolved hr hf =>
    obtain ⟨htop, hbelow⟩ := List.forall_mem_cons.mp hframes
    exact ⟨hbelow, houtside.trans (agreeOn_compl_file htop.1 _ _)⟩

/-- A move is also made from a cache that agrees on the keys below the root, and keeps the agreement. -/
theorem Leads.agreeOn (h : graph.Leads rules start finish)
    (hframes : ∀ frame ∈ start.stack, graph.StaysBelow root frame) {other : Cache}
    (hagree : start.cache.AgreeOn (graph.reachableKeys root) other) :
    ∃ last, graph.Leads rules ⟨other, start.stack, start.answer⟩
        ⟨last, finish.stack, finish.answer⟩ ∧
      finish.cache.AgreeOn (graph.reachableKeys root) last := by
  cases h with
  | answered hr he =>
    have hchild := ((List.forall_mem_cons.mp hframes).1.await hr).1
    obtain ⟨last, henter, hlast⟩ := agreeOn_enter hagree (key_mem_reachableKeys hchild) he
    exact ⟨last, .answered hr henter, hlast⟩
  | pushed hr he =>
    have hchild := ((List.forall_mem_cons.mp hframes).1.await hr).1
    obtain ⟨last, henter, hlast⟩ := agreeOn_enter hagree (key_mem_reachableKeys hchild) he
    exact ⟨last, .pushed hr henter, hlast⟩
  | resolved hr hf => exact ⟨_, .resolved hr hf, agreeOn_file hagree _ _⟩

/-! ### Requests -/

variable {context other : Context Unit} {machine : Machine Unit} {steps : Nat}

theorem moment_confined (h : Machine.Moment graph.host rules root threshold context machine) :
    graph.Confined root context.cache machine.view := by
  induction h with
  | start hmiss henter =>
    have he := enter_of_start hmiss henter
    exact confined_of_enter he
  | step hmoment hstep ih =>
    exact (leads_of_step (moment_stack_ne_nil hmoment) hstep).confined ih

theorem outside_of_run {result : Machine.Answer Unit}
    (h : Machine.run graph.host rules steps root threshold context = .ok result) :
    context.cache.AgreeOn (graph.reachableKeys root)ᶜ result.context.cache := by
  cases begins graph rules root threshold context with
  | marked _ hrun =>
    rw [hrun] at h
    cases h
  | hit _ hrun =>
    obtain ⟨noted, hrun, hcache⟩ := hrun steps
    rw [hrun] at h
    cases h
    rw [hcache]
    exact .refl _ _
  | ready _ he hrun =>
    obtain ⟨later, hrun, hcache⟩ := hrun steps
    rw [hrun] at h
    cases h
    rw [hcache]
    exact agreeOn_compl_enter .refl he
  | frame _ hmoment _ hrun =>
    rw [hrun] at h
    obtain ⟨last, frame, verdict, _, hlast, hstack, _, _, _, hcache⟩ :=
      exists_moment_of_loop hmoment h
    have hconfined := moment_confined hlast
    have hmem : frame ∈ last.stack := hstack ▸ List.mem_singleton_self frame
    have htop := hconfined.frames frame hmem
    rw [hcache]
    exact hconfined.outside.trans (agreeOn_compl_file htop.1 _ _)

/-- Two runs that begin with the same frames stay side by side to their end. -/
theorem endAlike_of_loop {twin : Machine Unit} (hne : machine.stack ≠ [])
    (hconfined : graph.Confined root initial machine.view)
    (hstack : twin.stack = machine.stack) (hanswer : twin.answer = machine.answer)
    (hagree : machine.context.cache.AgreeOn (graph.reachableKeys root) twin.context.cache) :
    EndAlike (graph.reachableKeys root) (Machine.loop graph.host rules steps machine)
      (Machine.loop graph.host rules steps twin) := by
  induction steps generalizing machine twin with
  | zero => exact .failed .stepsSpent
  | succ steps ih =>
    obtain ⟨frame, below, hs⟩ := List.exists_cons_of_ne_nil hne
    rw [Machine.loop, Machine.loop]
    rcases step_cases graph rules hs with ⟨next, hstep, hleads⟩ |
      ⟨verdict, found, ended, rfl, hr, hf, hstep, hcache⟩
    · obtain ⟨last, htwin, hlast⟩ := hleads.agreeOn hconfined.frames hagree
      have hview : twin.view = ⟨twin.context.cache, machine.view.stack, machine.view.answer⟩ := by
        rw [Machine.view, hstack, hanswer]
        rfl
      rw [← hview] at htwin
      obtain ⟨follower, hfollow, hfollower⟩ := step_of_leads htwin
      obtain ⟨hc, hs', ha⟩ := View.mk.injEq .. ▸ hfollower
      rw [hstep, hfollow]
      refine ih hleads.stack_ne_nil (hleads.confined hconfined) hs' ha ?_
      rw [hc]
      exact hlast
    · have hresume : frame.task.resume graph.host () twin.answer = .done verdict := hanswer ▸ hr
      obtain ⟨final, hresolve, hfinal⟩ := resolve_nil graph twin.context hf
      have htwin : twin.step graph.host rules = .ended found final :=
        (step_done (hstack.trans hs) hresume).trans hresolve
      rw [hstep, htwin]
      refine .answered rfl rfl ?_
      dsimp only
      rw [hcache, hfinal]
      exact agreeOn_file hagree _ _

theorem endAlike_of_run (rules : List Rule) (threshold : Level) (steps : Nat)
    (h : context.cache.AgreeOn (graph.reachableKeys root) other.cache) :
    EndAlike (graph.reachableKeys root)
      (Machine.run graph.host rules steps root threshold context)
      (Machine.run graph.host rules steps root threshold other) := by
  have hkey : graph.key root ∈ graph.reachableKeys root := key_mem_reachableKeys .refl
  have hlookup := h.lookup_eq hkey (.known threshold)
  cases begins graph rules root threshold context with
  | marked hl hrun =>
    rw [hrun, run_marked (hlookup ▸ hl)]
    exact .failed _
  | hit hl hrun =>
    obtain ⟨noted, hrun, hcache⟩ := hrun steps
    obtain ⟨noted', hrun', hcache'⟩ := run_hit rules (hlookup ▸ hl) steps
    rw [hrun, hrun']
    refine .answered rfl rfl ?_
    dsimp only
    rw [hcache, hcache']
    exact h
  | ready hmiss he hrun =>
    obtain ⟨later, hrun, hcache⟩ := hrun steps
    obtain ⟨final, he', hfinal⟩ := agreeOn_enter h hkey he
    obtain ⟨later', hrun', hcache'⟩ := run_ready (hlookup ▸ hmiss) he' steps
    rw [hrun, hrun']
    refine .answered rfl rfl ?_
    dsimp only
    rw [hcache, hcache']
    exact hfinal
  | frame he hmoment hview hrun =>
    obtain ⟨final, he', hfinal⟩ := agreeOn_enter h hkey he
    obtain ⟨first, _, hview', hrun'⟩ := run_frame he'
    obtain ⟨hc, hs, ha⟩ := View.mk.injEq .. ▸ hview
    obtain ⟨hc', hs', ha'⟩ := View.mk.injEq .. ▸ hview'
    rw [hrun, hrun']
    refine endAlike_of_loop (moment_stack_ne_nil hmoment) (moment_confined hmoment)
      (hs'.trans hs.symm) (ha'.trans ha.symm) ?_
    rw [hc, hc']
    exact hfinal

/-- Requests leave every entry alone that none of them reaches. -/
theorem get?_eq_of_runAll {requests : List Machine.Request} {answers : List (Machine.Answer Unit)}
    {key : CacheKey} (hkey : ∀ request ∈ requests, key ∉ graph.reachableKeys request.root)
    (h : Machine.runAll graph.host steps requests context = .ok answers) :
    ∀ answer ∈ answers, context.cache.get? key = answer.context.cache.get? key := by
  induction requests generalizing context answers with
  | nil =>
    cases h
    exact nofun
  | cons request requests ih =>
    obtain ⟨hfirst, hlater⟩ := List.forall_mem_cons.mp hkey
    obtain ⟨result, others, hrun, hrest, rfl⟩ := Machine.exists_of_runAll_cons h
    have hsame := outside_of_run hrun key hfirst
    refine List.forall_mem_cons.mpr ⟨hsame, fun answer hmem => ?_⟩
    exact hsame.trans (ih hlater hrest answer hmem)

/-- A request changes no entry outside the keys that its root reaches, neither on its way nor at its end;
from caches that agree on these keys it ends alike. So requests for unrelated types, whatever their
rules, do not change what it comes to. -/
theorem run_local (graph : TypeGraph) (rules : List Rule) (root : TypeRef) (threshold : Level)
    (context : Context Unit) :
    (∀ machine, Machine.Moment graph.host rules root threshold context machine →
      context.cache.AgreeOn (graph.reachableKeys root)ᶜ machine.context.cache) ∧
    (∀ steps result, Machine.run graph.host rules steps root threshold context = .ok result →
      context.cache.AgreeOn (graph.reachableKeys root)ᶜ result.context.cache) ∧
    (∀ other : Context Unit, context.cache.AgreeOn (graph.reachableKeys root) other.cache →
      ∀ steps, EndAlike (graph.reachableKeys root)
        (Machine.run graph.host rules steps root threshold context)
        (Machine.run graph.host rules steps root threshold other)) ∧
    (∀ steps requests answers,
      (∀ request ∈ requests,
        Disjoint (graph.reachableKeys request.root) (graph.reachableKeys root)) →
      Machine.runAll graph.host steps requests context = .ok answers →
      ∀ answer ∈ answers, ∀ more, EndAlike (graph.reachableKeys root)
        (Machine.run graph.host rules more root threshold context)
        (Machine.run graph.host rules more root threshold answer.context)) := by
  refine ⟨?_, ?_, ?_, ?_⟩
  · intro machine hmoment
    exact (moment_confined hmoment).outside
  · intro steps result h
    exact outside_of_run h
  · intro other h steps
    exact endAlike_of_run rules threshold steps h
  · intro steps requests answers hdisjoint h answer hmem more
    apply endAlike_of_run
    intro key hkey
    have hunrelated : ∀ request ∈ requests, key ∉ graph.reachableKeys request.root :=
      fun request hrequest hother => Set.disjoint_left.mp (hdisjoint request hrequest) hother hkey
    exact get?_eq_of_runAll hunrelated h answer hmem

theorem knot_reaches {ref : TypeRef} (h : knot.Reaches ⟨⟨0⟩, none⟩ ref) : ref.id.index ≤ 2 := by
  induction h with
  | refl => decide
  | @tail parent child _ hchild _ =>
    have hmem : ∀ index, ∀ child ∈ knot.children ⟨index⟩, child.id.index ≤ 2
      | 0 => by decide
      | 1 => by decide
      | _ + 2 => nofun
    exact hmem parent.id.index child hchild

theorem run_knot_local :
    ∃ earlier, Machine.run knot.host [] 20 ⟨⟨5⟩, none⟩ .immutable { state := () } = .ok earlier ∧
      EndAlike (knot.reachableKeys ⟨⟨0⟩, none⟩)
        (Machine.run knot.host [] 20 ⟨⟨0⟩, none⟩ .immutable { state := () })
        (Machine.run knot.host [] 20 ⟨⟨0⟩, none⟩ .immutable earlier.context) := by
  have hdisjoint : Disjoint (knot.reachableKeys ⟨⟨5⟩, none⟩) (knot.reachableKeys ⟨⟨0⟩, none⟩) := by
    rw [Set.disjoint_left]
    rintro key ⟨ref, href, hfiles⟩ ⟨other, hother, hfiles'⟩
    have hself : ref = ⟨⟨5⟩, none⟩ := by
      rcases Relation.ReflTransGen.cases_head href with rfl | ⟨_, hchild, _⟩
      · rfl
      · cases hchild
    subst hself
    have hkey : key = .identity ⟨5⟩ := hfiles.resolve_right nofun
    subst hkey
    have hle := knot_reaches hother
    rcases hfiles' with hkey | hkey
    · have hindex := congrArg Handle.index (CacheKey.identity.inj hkey)
      change 5 = other.id.index at hindex
      omega
    · cases hn : other.node <;> rw [hn] at hkey <;> cases hkey
  cases hrun : Machine.run knot.host [] 20 ⟨⟨5⟩, none⟩ .immutable { state := () } with
  | error fault => cases hrun
  | ok earlier =>
    have hall : Machine.runAll knot.host 20 [⟨[], ⟨⟨5⟩, none⟩, .immutable⟩] { state := () } =
        .ok [earlier] := by
      rw [Machine.runAll_cons_ok hrun]
      rfl
    exact ⟨earlier, rfl, (run_local knot [] ⟨⟨0⟩, none⟩ .immutable { state := () }).2.2.2 20 _ _
      (by simpa using hdisjoint) hall earlier (List.mem_singleton_self earlier) 20⟩

end TypeGraph

end Immutability
