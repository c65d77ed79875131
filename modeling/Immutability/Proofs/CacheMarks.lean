import Immutability.Proofs.MachineRuns

/-!
# Marks of types under way

A type is marked while its frame is on the stack. Other spellings of the type may overwrite the mark and
be overwritten in turn, so the marks are not exactly the keys of the frames. What holds throughout is
one half: a mark that was not there at the start belongs to a frame. When the stack is empty again, no
new mark is left.
-/

set_option autoImplicit false

namespace Immutability

/-- The entry under the key is the mark of a type under way. -/
def Cache.Marked (cache : Cache) (key : CacheKey) : Prop :=
  ∃ entry, cache.get? key = some entry ∧ entry.value = .calculating

namespace TypeGraph

variable {graph : TypeGraph} {rules : List Rule} {ref : TypeRef} {threshold : Level}
  {cache final initial : Cache} {entry : Entry} {key : CacheKey} {status : Status}

theorem marked_file_iff :
    (graph.file ref entry cache).Marked key ↔
      if graph.Files ref key then entry.value = .calculating else cache.Marked key := by
  unfold Cache.Marked
  rw [get?_file]
  split <;> simp

theorem marked_of_marked_file (hentry : entry.value ≠ .calculating)
    (h : (graph.file ref entry cache).Marked key) :
    ¬ graph.Files ref key ∧ cache.Marked key := by
  rw [marked_file_iff] at h
  split at h
  · exact absurd h hentry
  · exact ⟨by assumption, h⟩

theorem marked_or_files_of_marked_file (h : (graph.file ref entry cache).Marked key) :
    graph.Files ref key ∨ cache.Marked key := by
  by_cases hf : graph.Files ref key
  · exact Or.inl hf
  · rw [marked_file_iff, if_neg hf] at h
    exact Or.inr h

/-- Rules with settled targets never file the mark. -/
theorem ne_calculating_of_forced (hrules : ∀ rule ∈ rules, rule.target ≠ .calculating)
    (h : graph.demand rules ref threshold = .forced status) : status ≠ .calculating := by
  obtain ⟨rule, hmem, _, rfl⟩ := mem_of_demand_forced h
  exact hrules rule hmem

/-- A type that is answered at once leaves no new mark. -/
theorem marked_of_enter_ready (hrules : ∀ rule ∈ rules, rule.target ≠ .calculating)
    (h : graph.enter rules ref threshold cache = (.ready status, final)) (hm : final.Marked key) :
    cache.Marked key := by
  cases enters_of_enter h with
  | hit => exact hm
  | nothing => exact hm
  | forced _ hd => exact (marked_of_marked_file (ne_calculating_of_forced hrules hd) hm).2
  | leaf =>
    obtain ⟨hf, hm⟩ := marked_of_marked_file (conclusion_ne_calculating _ _ _) hm
    rwa [marked_file_iff, if_neg hf] at hm

/-- A type that gets a frame leaves new marks under its own keys only. -/
theorem marked_of_enter_frame {frame : Frame}
    (h : graph.enter rules ref threshold cache = (.frame frame, final)) (hm : final.Marked key) :
    graph.Files frame.ref key ∨ cache.Marked key := by
  cases enters_of_enter h with
  | walk => exact marked_or_files_of_marked_file hm

/-- An evaluation that comes back leaves no new mark: the marks of its walks are written over when they
end. -/
theorem marked_of_evaluates (hrules : ∀ rule ∈ rules, rule.target ≠ .calculating)
    (h : graph.Evaluates rules ref threshold cache status final) (hm : final.Marked key) :
    cache.Marked key := by
  refine (evaluates_induction (fun _ _ cache _ final => ∀ key, final.Marked key → cache.Marked key)
    (fun _ _ _ cache _ final => ∀ key, final.Marked key → cache.Marked key)
    ?ready ?frame ?done ?await).1 h key hm
  case ready =>
    intro ref threshold cache status final he key hm
    exact marked_of_enter_ready hrules he hm
  case frame =>
    intro ref threshold cache middle final verdict frame he hwalk key hm
    obtain ⟨hother, hm⟩ := marked_of_marked_file (conclusion_ne_calculating _ _ _) hm
    exact (marked_of_enter_frame he (hwalk key hm)).resolve_left hother
  case done =>
    intro threshold task answer cache verdict _ key hm
    exact hm
  case await =>
    intro threshold task answer cache middle final child rest status verdict _ hchild hrest key hm
    exact hchild key (hrest key hm)

/-- A status that is the mark was read from the cache. -/
theorem marked_of_enter_calculating (hrules : ∀ rule ∈ rules, rule.target ≠ .calculating)
    (h : graph.enter rules ref threshold cache = (.ready .calculating, final)) :
    cache.lookup (graph.key ref) (.known threshold) = .hit .calculating := by
  generalize hstatus : Status.calculating = status at h ⊢
  cases enters_of_enter h with
  | hit hl => exact hl
  | nothing => cases hstatus
  | forced _ hd => exact absurd hstatus.symm (ne_calculating_of_forced hrules hd)
  | leaf => exact absurd hstatus.symm (conclusion_ne_calculating _ _ _)

def OnStack (graph : TypeGraph) (stack : List Frame) (key : CacheKey) : Prop :=
  ∃ frame ∈ stack, graph.Files frame.ref key

theorem onStack_cons {frame : Frame} {below : List Frame} :
    graph.OnStack (frame :: below) key ↔ graph.Files frame.ref key ∨ graph.OnStack below key := by
  simp [OnStack]

def MarksOnStack (graph : TypeGraph) (initial : Cache) (view : View) : Prop :=
  ∀ key, view.cache.Marked key → initial.Marked key ∨ graph.OnStack view.stack key

theorem Leads.marksOnStack {start finish : View}
    (hrules : ∀ rule ∈ rules, rule.target ≠ .calculating) (h : graph.Leads rules start finish)
    (hinv : graph.MarksOnStack initial start) : graph.MarksOnStack initial finish := by
  intro key hm
  cases h with
  | answered hr he =>
    rcases hinv key (marked_of_enter_ready hrules he hm) with hi | hs
    · exact Or.inl hi
    · have hs := onStack_cons.mp hs
      exact Or.inr (onStack_cons.mpr hs)
  | pushed hr he =>
    rcases marked_of_enter_frame he hm with hf | hm
    · exact Or.inr (onStack_cons.mpr (Or.inl hf))
    · rcases hinv key hm with hi | hs
      · exact Or.inl hi
      · have hs := onStack_cons.mp hs
        exact Or.inr (onStack_cons.mpr (Or.inr (onStack_cons.mpr hs)))
  | resolved hr hf =>
    -- The frame that is taken off has just overwritten its own keys.
    obtain ⟨hother, hm⟩ := marked_of_marked_file (conclusion_ne_calculating _ _ _) hm
    rcases hinv key hm with hi | hs
    · exact Or.inl hi
    · rcases onStack_cons.mp hs with hfiles | hs
      · exact absurd hfiles hother
      · exact Or.inr hs

variable {root : TypeRef} {context : Context Unit} {machine : Machine Unit}

theorem marksOnStack_of_enter {frame : Frame}
    (h : graph.enter rules root threshold cache = (.frame frame, final)) :
    graph.MarksOnStack cache ⟨final, [frame], none⟩ := by
  intro key hm
  rcases marked_of_enter_frame h hm with hf | hm
  · exact Or.inr (onStack_cons.mpr (Or.inl hf))
  · exact Or.inl hm

theorem moment_marksOnStack (hrules : ∀ rule ∈ rules, rule.target ≠ .calculating)
    (h : Machine.Moment graph.host rules root threshold context machine) :
    graph.MarksOnStack context.cache machine.view := by
  induction h with
  | start hmiss henter =>
    have he := enter_of_start hmiss henter
    exact marksOnStack_of_enter he
  | step hmoment hstep ih =>
    exact (leads_of_step (moment_stack_ne_nil hmoment) hstep).marksOnStack hrules ih

/-- A run that ends has taken all its frames off, and with them all its marks. -/
theorem settled_of_loop {steps : Nat} {result : Machine.Answer Unit}
    (hrules : ∀ rule ∈ rules, rule.target ≠ .calculating)
    (hmoment : Machine.Moment graph.host rules root threshold context machine)
    (h : Machine.loop graph.host rules steps machine = .ok result) :
    result.status ≠ .calculating ∧
      ∀ key, result.context.cache.Marked key → context.cache.Marked key := by
  obtain ⟨last, frame, verdict, found, hlast, hstack, _, _, hstatus, hcache⟩ :=
    exists_moment_of_loop hmoment h
  constructor
  · rw [hstatus]
    exact nofun
  · intro key hm
    rw [hcache] at hm
    obtain ⟨hother, hm⟩ := marked_of_marked_file (conclusion_ne_calculating _ _ _) hm
    rcases moment_marksOnStack hrules hlast key hm with hi | hs
    · exact hi
    · rw [Machine.view, hstack] at hs
      rcases onStack_cons.mp hs with hfiles | ⟨_, hmem, _⟩
      · exact absurd hfiles hother
      · exact absurd hmem List.not_mem_nil

/-- A request that is answered gives a settled status and leaves no new mark. -/
theorem settled_of_run {steps : Nat} {result : Machine.Answer Unit}
    (hrules : ∀ rule ∈ rules, rule.target ≠ .calculating)
    (h : Machine.run graph.host rules steps root threshold context = .ok result) :
    result.status ≠ .calculating ∧
      ∀ key, result.context.cache.Marked key → context.cache.Marked key := by
  cases begins graph rules root threshold context with
  | marked _ hrun =>
    rw [hrun] at h
    cases h
  | hit _ hrun =>
    obtain ⟨noted, hrun, hcache⟩ := hrun steps
    rw [hrun] at h
    cases h
    constructor
    · intro hstatus
      cases hstatus
    · intro key hm
      rwa [hcache] at hm
  | ready hmiss he hrun =>
    obtain ⟨entered, hrun, hcache⟩ := hrun steps
    rw [hrun] at h
    cases h
    constructor
    · rintro rfl
      exact hmiss _ (marked_of_enter_calculating hrules he)
    · intro key hm
      rw [hcache] at hm
      exact marked_of_enter_ready hrules he hm
  | frame _ hmoment _ hrun =>
    rw [hrun] at h
    exact settled_of_loop hrules hmoment h

/-- A request fails for want of steps, or because its root was marked before. -/
theorem fault_of_run {steps : Nat} {fault : Fault}
    (h : Machine.run graph.host rules steps root threshold context = .error fault) :
    fault = .stepsSpent ∨
      (fault = .stillCalculating root.id ∧ context.cache.Marked (graph.key root)) := by
  cases begins graph rules root threshold context with
  | marked hl hrun =>
    rw [hrun] at h
    cases h
    obtain ⟨entry, hentry, _, hvalue⟩ := Cache.lookup_eq_hit_iff.mp hl
    exact Or.inr ⟨rfl, entry, hentry, hvalue⟩
  | hit _ hrun =>
    obtain ⟨noted, hrun, _⟩ := hrun steps
    rw [hrun] at h
    cases h
  | ready _ _ hrun =>
    obtain ⟨entered, hrun, _⟩ := hrun steps
    rw [hrun] at h
    cases h
  | frame _ hmoment _ hrun =>
    rw [hrun] at h
    exact Or.inl (eq_stepsSpent_of_loop (moment_stack_ne_nil hmoment) h)

theorem eq_stepsSpent_of_runAll {requests : List Machine.Request} {steps : Nat} {fault : Fault}
    (hrequests : ∀ request ∈ requests, ∀ rule ∈ request.rules, rule.target ≠ .calculating)
    (hclean : ∀ key, ¬ context.cache.Marked key)
    (h : Machine.runAll graph.host steps requests context = .error fault) :
    fault = .stepsSpent := by
  induction requests generalizing context with
  | nil => cases h
  | cons request requests ih =>
    cases hrun : Machine.run graph.host request.rules steps request.root request.threshold
      context with
    | error other =>
      rw [Machine.runAll_cons_error hrun] at h
      cases h
      rcases fault_of_run hrun with hspent | ⟨_, hmarked⟩
      · exact hspent
      · exact absurd hmarked (hclean _)
    | ok result =>
      have hkept := (settled_of_run (hrequests request List.mem_cons_self) hrun).2
      rw [Machine.runAll_cons_ok hrun] at h
      cases hrest : Machine.runAll graph.host steps requests result.context with
      | error other =>
        rw [hrest] at h
        cases h
        exact ih (fun later hmem => hrequests later (List.mem_cons_of_mem request hmem))
          (fun key hm => hclean key (hkept key hm)) hrest
      | ok results =>
        rw [hrest] at h
        cases h

theorem not_marked_empty (key : CacheKey) : ¬ ({} : Cache).Marked key := by
  rintro ⟨entry, h, _⟩
  cases key <;> simp [Cache.get?] at h

/-- The mark of a type under way never leaves a request: it is neither returned nor left in the cache,
no step fails over it, and at every moment it stands under a key of a frame. So requests that start
from an empty cache never find it at their root. -/
theorem marks_never_escape (graph : TypeGraph) (rules : List Rule) (root : TypeRef)
    (threshold : Level) (context : Context Unit)
    (hrules : ∀ rule ∈ rules, rule.target ≠ .calculating)
    (requests : List Machine.Request)
    (hrequests : ∀ request ∈ requests, ∀ rule ∈ request.rules, rule.target ≠ .calculating) :
    (∀ steps result,
      Machine.run graph.host rules steps root threshold context = .ok result →
      result.status ≠ .calculating ∧
        ∀ key, result.context.cache.Marked key → context.cache.Marked key) ∧
    (∀ steps fault,
      Machine.run graph.host rules steps root threshold context = .error fault →
      fault = .stepsSpent ∨
        (fault = .stillCalculating root.id ∧ context.cache.Marked (graph.key root))) ∧
    (∀ machine, Machine.Moment graph.host rules root threshold context machine →
      (∀ fault, machine.step graph.host rules ≠ .failed fault) ∧
      ∀ key, machine.context.cache.Marked key →
        context.cache.Marked key ∨ ∃ frame ∈ machine.stack, graph.Files frame.ref key) ∧
    (∀ steps journal fault,
      Machine.runAll graph.host steps requests { state := (), journal } = .error fault →
      fault = .stepsSpent) := by
  refine ⟨?_, ?_, ?_, ?_⟩
  · intro steps result h
    exact settled_of_run hrules h
  · intro steps fault h
    exact fault_of_run h
  · intro machine hmoment
    constructor
    · obtain ⟨frame, below, hs⟩ := List.exists_cons_of_ne_nil (moment_stack_ne_nil hmoment)
      intro fault hfailed
      rcases step_cases graph rules hs with ⟨_, hstep, _⟩ | ⟨_, _, _, _, _, _, hstep, _⟩ <;>
        · rw [hfailed] at hstep
          cases hstep
    · exact moment_marksOnStack hrules hmoment
  · intro steps journal fault h
    exact eq_stepsSpent_of_runAll hrequests not_marked_empty h

theorem marks_never_escape_knot :
    let rule : Rule := { specifier := { names := ["Knot"] }, target := .known .readonlyShallow,
                         origin := some (.known .immutable) }
    let requests : List Machine.Request :=
      [⟨[rule], ⟨⟨0⟩, some ⟨7⟩⟩, .readonlyDeep⟩, ⟨[], ⟨⟨0⟩, none⟩, .immutable⟩]
    (Machine.runAll knot.host 20 requests { state := () }).toOption.map (·.map (·.status)) =
      some [.known .readonlyShallow, .known .readonlyShallow] ∧
    ∀ steps fault, Machine.runAll knot.host steps requests { state := () } = .error fault →
      fault = .stepsSpent := by
  intro rule requests
  refine ⟨by decide +kernel, ?_⟩
  intro steps fault h
  exact (marks_never_escape knot [rule] ⟨⟨0⟩, none⟩ .immutable { state := () }
    (by simp [rule]) requests (by simp [requests, rule])).2.2.2 steps {} fault h

end TypeGraph

end Immutability
