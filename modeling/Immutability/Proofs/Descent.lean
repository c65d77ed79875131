import Immutability.Proofs.Acyclic
import Immutability.Proofs.CacheMarks
import Immutability.Proofs.Locality
import Immutability.Proofs.RepeatedRequests
import Immutability.Proofs.Termination

/-!
# How often a type is walked over

Types without a place are looked up by their identity. While a frame of an identity is on the stack its
mark answers every request, so no second frame of that identity comes on top of it. When the frame is
taken off, the entry that it leaves answers requests up to its threshold, and whatever is written over
that entry later answers no less. So an identity gets a further frame only under a higher threshold than
before. A request knows two thresholds at most: its own, and the highest one, to which rules with an
origin raise it.
-/

set_option autoImplicit false

namespace Immutability

theorem Cache.Answers.mono {cache : Cache} {key : CacheKey} {threshold lower : Level}
    (h : cache.Answers key threshold) (hle : lower ≤ threshold) : cache.Answers key lower := by
  obtain ⟨entry, hget, hs⟩ := h
  exact ⟨entry, hget, Entry.satisfies_of_le hs hle⟩

theorem Cache.Marked.answers {cache : Cache} {key : CacheKey} (h : cache.Marked key)
    (threshold : Level) : cache.Answers key threshold := by
  obtain ⟨entry, hget, hvalue⟩ := h
  refine ⟨entry, hget, ?_⟩
  simp [Entry.satisfies, hvalue, Status.isCalculating]

namespace Machine

variable {σ : Type}

/-- The frames that the next steps put on the stack, in their order. -/
def pushes (host : Host σ) (rules : List Rule) : Nat → Machine σ → List Frame
  | 0, _ => []
  | steps + 1, machine =>
    match machine.step host rules with
    | .running next =>
      next.stack.take (next.stack.length - machine.stack.length) ++ pushes host rules steps next
    | _ => []

/-- The frames that a request puts on the stack before so many steps are over, that of its root first. -/
def framesOf (host : Host σ) (rules : List Rule) (steps : Nat) (root : TypeRef) (threshold : Level)
    (context : Context σ) : List Frame :=
  match context.consult host root threshold with
  | (some _, _) => []
  | (none, context) =>
    match enter host rules root threshold context with
    | (.ready _, _) => []
    | (.frame frame, context) =>
      frame :: pushes host rules steps (push { context, stack := [] } frame)

end Machine

namespace TypeGraph

variable {graph : TypeGraph} {rules : List Rule} {ref root : TypeRef} {threshold level : Level}
  {cache final : Cache} {entry : Entry} {key : CacheKey} {status : Status} {frame : Frame}

def Bare (graph : TypeGraph) (root : TypeRef) : Prop :=
  ∀ ref, graph.Reaches root ref → ref.node = none

theorem files_iff_of_node (hnode : ref.node = none) : graph.Files ref key ↔ key = graph.key ref := by
  rw [key_of_node_eq_none hnode, Files, hnode]
  simp

theorem get?_file_of_ne (hnode : ref.node = none) (hne : key ≠ graph.key ref) :
    (graph.file ref entry cache).get? key = cache.get? key := by
  rw [get?_file, if_neg (mt (files_iff_of_node hnode).mp hne)]

/-- A type whose key is marked is answered. -/
theorem not_marked_of_miss
    (hmiss : ∀ status, cache.lookup (graph.key ref) (.known threshold) ≠ .hit status) :
    ¬ cache.Marked (graph.key ref) := by
  intro hmarked
  obtain ⟨status, hl⟩ := Cache.answers_iff_hit.mp (hmarked.answers threshold)
  exact hmiss status hl

/-- A key that does not answer a request answers requests with lower thresholds only. -/
theorem not_le_of_miss
    (hmiss : ∀ status, cache.lookup (graph.key ref) (.known threshold) ≠ .hit status)
    (h : cache.Answers (graph.key ref) level) : ¬ threshold ≤ level := by
  intro hle
  obtain ⟨status, hl⟩ := Cache.answers_iff_hit.mp (h.mono hle)
  exact hmiss status hl

/-! ### What entering a type keeps -/

/-- Entering a type without a place leaves the cache alone, or puts an entry that answers the request in
the place of one that does not. -/
theorem overwrites_of_enter {entered : Entered} (hnode : ref.node = none)
    (h : graph.enter rules ref threshold cache = (entered, final)) :
    final = cache ∨
    ((∀ status, cache.lookup (graph.key ref) (.known threshold) ≠ .hit status) ∧
      (∀ key, key ≠ graph.key ref → final.get? key = cache.get? key) ∧
      final.Answers (graph.key ref) threshold) := by
  have hown : ∀ {entry : Entry} {cache : Cache}, entry.satisfies (.known threshold) = true →
      (graph.file ref entry cache).Answers (graph.key ref) threshold :=
    fun hs => ⟨_, graph.get?_file_key ref _ _, hs⟩
  cases enters_of_enter h with
  | hit => exact Or.inl rfl
  | nothing => exact Or.inl rfl
  | forced hmiss _ =>
    exact Or.inr ⟨hmiss, fun key hne => get?_file_of_ne hnode hne, hown (Entry.satisfies_forced _ _)⟩
  | leaf hmiss hd _ =>
    refine Or.inr ⟨hmiss, fun key hne => ?_, hown ?_⟩
    · rw [get?_file_of_ne hnode hne, get?_file_of_ne hnode hne]
    · exact satisfies_conclusion (threshold_le_of_demand hd) _ _
  | walk hmiss _ _ =>
    exact Or.inr ⟨hmiss, fun key hne => get?_file_of_ne hnode hne,
      hown (Entry.satisfies_inProgress _)⟩

theorem answers_of_enter {entered : Entered} (hnode : ref.node = none)
    (h : graph.enter rules ref threshold cache = (entered, final)) (ha : cache.Answers key level) :
    final.Answers key level := by
  rcases overwrites_of_enter hnode h with rfl | ⟨hmiss, hkept, hown⟩
  · exact ha
  by_cases hkey : key = graph.key ref
  · subst hkey
    have hbelow := (Level.le_total level threshold).resolve_right (not_le_of_miss hmiss ha)
    exact hown.mono hbelow
  · obtain ⟨entry, hget, hs⟩ := ha
    exact ⟨entry, (hkept key hkey).trans hget, hs⟩

theorem marked_of_enter {entered : Entered} (hnode : ref.node = none)
    (h : graph.enter rules ref threshold cache = (entered, final)) (hm : cache.Marked key) :
    final.Marked key := by
  rcases overwrites_of_enter hnode h with rfl | ⟨hmiss, hkept, _⟩
  · exact hm
  have hkey : key ≠ graph.key ref := by
    rintro rfl
    exact not_marked_of_miss hmiss hm
  obtain ⟨entry, hget, hvalue⟩ := hm
  exact ⟨entry, (hkept key hkey).trans hget, hvalue⟩

/-! ### Frames of one identity -/

/-- The thresholds that a request under `threshold` can come under. -/
def InPlay (rules : List Rule) (threshold level : Level) : Prop :=
  level = threshold ∨ (level = .immutable ∧ ∃ rule ∈ rules, rule.origin ≠ none)

theorem inPlay_of_demand {asked judged : Level} {pending : Option PendingRule}
    (hasked : InPlay rules threshold asked)
    (h : graph.demand rules ref asked = .judged judged pending) : InPlay rules threshold judged := by
  rcases demand_judged_cases h with ⟨rfl, _⟩ | ⟨rfl, rule, hmem, origin, horigin, _⟩
  · exact hasked
  · exact Or.inr ⟨rfl, rule, hmem, by simp [horigin]⟩

/-- The frames on the stack have different keys, all of them marked. Among the frames that were pushed so
far, those of one key have rising thresholds, and the key answers all of them. -/
structure Spaced (graph : TypeGraph) (view : View) (pushed : List Frame) : Prop where
  distinct : (view.stack.map fun frame => graph.key frame.ref).Nodup
  marked : ∀ frame ∈ view.stack, view.cache.Marked (graph.key frame.ref)
  latest : ∀ frame ∈ view.stack, ∀ earlier ∈ pushed, graph.key earlier.ref = graph.key frame.ref →
    earlier.threshold ≤ frame.threshold
  answered : ∀ earlier ∈ pushed, view.cache.Answers (graph.key earlier.ref) earlier.threshold
  rising : pushed.Pairwise fun earlier later => graph.key earlier.ref = graph.key later.ref →
    ¬ later.threshold ≤ earlier.threshold

namespace Spaced

variable {frame inner outer : Frame} {below : List Frame} {answer other : Option Verdict} {task : Task}
  {pushed : List Frame} {child : TypeRef} {entered : Entered} {verdict : Verdict}

/-- How far the walk on top has come does not matter. -/
theorem resume (h : graph.Spaced ⟨cache, frame :: below, answer⟩ pushed) (task : Task)
    (other : Option Verdict) : graph.Spaced ⟨cache, { frame with task } :: below, other⟩ pushed where
  distinct := h.distinct
  marked := List.forall_mem_cons.mpr (List.forall_mem_cons.mp h.marked)
  latest := List.forall_mem_cons.mpr (List.forall_mem_cons.mp h.latest)
  answered := h.answered
  rising := h.rising

theorem answered_step (h : graph.Spaced ⟨cache, below, answer⟩ pushed) (hnode : child.node = none)
    (he : graph.enter rules child threshold cache = (entered, final)) :
    graph.Spaced ⟨final, below, answer⟩ pushed where
  distinct := h.distinct
  marked frame hmem := marked_of_enter hnode he (h.marked frame hmem)
  latest := h.latest
  answered earlier hmem := answers_of_enter hnode he (h.answered earlier hmem)
  rising := h.rising

/-- A child that gets a frame was not answered, so its key is neither on the stack nor answered up to the
threshold of the new frame. -/
theorem pushed_step (h : graph.Spaced ⟨cache, below, answer⟩ pushed) (hnode : child.node = none)
    (he : graph.enter rules child threshold cache = (.frame inner, final)) :
    graph.Spaced ⟨final, inner :: below, other⟩ (pushed ++ [inner]) := by
  have hmarked := fun frame hmem => marked_of_enter hnode he (h.marked frame hmem)
  have hanswered := fun earlier hmem => answers_of_enter hnode he (h.answered earlier hmem)
  cases enters_of_enter he with
  | @walk judged pending task hmiss hd _ =>
    have hown : (graph.file child .inProgress cache).Marked (graph.key child) :=
      ⟨_, graph.get?_file_key child _ _, rfl⟩
    have hlower : ∀ earlier ∈ pushed, graph.key earlier.ref = graph.key child →
        ¬ judged ≤ earlier.threshold := by
      intro earlier hmem hkey hle
      have hold := h.answered earlier hmem
      rw [hkey] at hold
      exact not_le_of_miss hmiss hold (Level.le_trans (threshold_le_of_demand hd) hle)
    constructor
    · refine List.nodup_cons.mpr ⟨fun hmem => ?_, h.distinct⟩
      obtain ⟨frame, hframe, hkey⟩ := List.mem_map.mp hmem
      have hopen := h.marked frame hframe
      rw [hkey] at hopen
      exact not_marked_of_miss hmiss hopen
    · exact List.forall_mem_cons.mpr ⟨hown, hmarked⟩
    · refine List.forall_mem_cons.mpr ⟨?_, ?_⟩
      · intro earlier hmem hkey
        rcases List.mem_append.mp hmem with hold | hnew
        · exact (Level.le_total _ _).resolve_right (hlower earlier hold hkey)
        · cases List.mem_singleton.mp hnew
          exact Level.le_refl judged
      · intro frame hframe earlier hmem hkey
        rcases List.mem_append.mp hmem with hold | hnew
        · exact h.latest frame hframe earlier hold hkey
        · rw [List.mem_singleton.mp hnew] at hkey
          exact absurd (hkey ▸ h.marked frame hframe) (not_marked_of_miss hmiss)
    · intro earlier hmem
      rcases List.mem_append.mp hmem with hold | hnew
      · exact hanswered earlier hold
      · rw [List.mem_singleton.mp hnew]
        exact hown.answers _
    · refine List.pairwise_append.mpr ⟨h.rising, List.pairwise_singleton _ _, ?_⟩
      intro earlier hold later hnew hkey
      rw [List.mem_singleton.mp hnew] at hkey ⊢
      exact hlower earlier hold hkey

/-- The entry of a frame that is taken off answers requests up to its threshold, which is the highest that
its key had. -/
theorem resolved_step (h : graph.Spaced ⟨cache, frame :: below, answer⟩ pushed)
    (hnode : frame.ref.node = none) :
    graph.Spaced ⟨graph.file frame.ref (conclusion frame.threshold frame.pending verdict) cache,
      below, other⟩ pushed := by
  obtain ⟨hnew, hdistinct⟩ := List.nodup_cons.mp h.distinct
  obtain ⟨-, hmarked⟩ := List.forall_mem_cons.mp h.marked
  obtain ⟨hlatest, hbelow⟩ := List.forall_mem_cons.mp h.latest
  refine ⟨hdistinct, ?_, hbelow, ?_, h.rising⟩
  · intro other hmem
    have hne : graph.key other.ref ≠ graph.key frame.ref :=
      fun hkey => hnew (List.mem_map.mpr ⟨other, hmem, hkey⟩)
    obtain ⟨entry, hget, hvalue⟩ := hmarked other hmem
    exact ⟨entry, (get?_file_of_ne hnode hne).trans hget, hvalue⟩
  · intro earlier hmem
    by_cases hkey : graph.key earlier.ref = graph.key frame.ref
    · rw [hkey]
      exact ⟨_, graph.get?_file_key _ _ _, satisfies_conclusion (hlatest earlier hmem hkey) _ _⟩
    · obtain ⟨entry, hget, hs⟩ := h.answered earlier hmem
      exact ⟨entry, (get?_file_of_ne hnode hkey).trans hget, hs⟩

end Spaced

variable {start finish : View} {pushed : List Frame}

theorem inPlay_of_enter {asked : Level} (hasked : InPlay rules threshold asked)
    (he : graph.enter rules ref asked cache = (.frame frame, final)) :
    InPlay rules threshold frame.threshold := by
  cases enters_of_enter he with
  | walk _ hd _ => exact inPlay_of_demand hasked hd

theorem Leads.inPlay (h : graph.Leads rules start finish)
    (hstack : ∀ frame ∈ start.stack, InPlay rules threshold frame.threshold) :
    ∀ frame ∈ finish.stack, InPlay rules threshold frame.threshold := by
  cases h with
  | answered => exact List.forall_mem_cons.mpr (List.forall_mem_cons.mp hstack)
  | pushed _ he =>
    have hstack := List.forall_mem_cons.mp hstack
    exact List.forall_mem_cons.mpr ⟨inPlay_of_enter hstack.1 he, List.forall_mem_cons.mpr hstack⟩
  | resolved => exact (List.forall_mem_cons.mp hstack).2

theorem Leads.spaced (h : graph.Leads rules start finish) (hbare : graph.Bare root)
    (hframes : ∀ frame ∈ start.stack, graph.StaysBelow root frame)
    (hinv : graph.Spaced start pushed) :
    graph.Spaced finish (pushed ++ finish.stack.take (finish.stack.length - start.stack.length)) := by
  cases h with
  | answered hr he =>
    have hchild := ((List.forall_mem_cons.mp hframes).1.await hr).1
    simpa using (hinv.answered_step (hbare _ hchild) he).resume _ _
  | pushed hr he =>
    have hchild := ((List.forall_mem_cons.mp hframes).1.await hr).1
    simpa using (hinv.resume _ none).pushed_step (hbare _ hchild) he
  | resolved hr hf =>
    have htop := (List.forall_mem_cons.mp hframes).1.1
    simpa using hinv.resolved_step (hbare _ htop)

variable {context : Context Unit} {machine : Machine Unit}

theorem spaced_of_enter (hnode : ref.node = none)
    (he : graph.enter rules ref threshold cache = (.frame frame, final)) :
    graph.Spaced ⟨final, [frame], none⟩ [frame] := by
  have hempty : graph.Spaced ⟨cache, [], none⟩ [] :=
    ⟨List.nodup_nil, by simp, by simp, by simp, .nil⟩
  exact hempty.pushed_step hnode he

theorem moment_spaced (hbare : graph.Bare root)
    (h : Machine.Moment graph.host rules root threshold context machine) :
    ∃ pushed, graph.Spaced machine.view pushed := by
  induction h with
  | start hmiss henter =>
    have he := enter_of_start hmiss henter
    exact ⟨_, spaced_of_enter (hbare root .refl) he⟩
  | step hmoment hstep ih =>
    obtain ⟨pushed, hinv⟩ := ih
    have hleads := leads_of_step (moment_stack_ne_nil hmoment) hstep
    exact ⟨_, hleads.spaced hbare (moment_confined hmoment).frames hinv⟩

/-- The frames of one key have rising thresholds over a whole run, along with those pushed before. -/
theorem rising_of_pushes (machine : Machine Unit) {initial : Cache} (hbare : graph.Bare root)
    (hne : machine.stack ≠ [])
    (hconfined : graph.Confined root initial machine.view)
    (hlevels : ∀ frame ∈ machine.stack, InPlay rules threshold frame.threshold)
    (hinv : graph.Spaced machine.view pushed) (steps : Nat) :
    (pushed ++ Machine.pushes graph.host rules steps machine).Pairwise
      (fun earlier later => graph.key earlier.ref = graph.key later.ref →
        ¬ later.threshold ≤ earlier.threshold) ∧
    ∀ frame ∈ Machine.pushes graph.host rules steps machine,
      frame.ref.node = none ∧ InPlay rules threshold frame.threshold := by
  induction steps generalizing machine pushed with
  | zero => exact ⟨by simpa [Machine.pushes] using hinv.rising, by simp [Machine.pushes]⟩
  | succ steps ih =>
    rw [Machine.pushes]
    cases hstep : machine.step graph.host rules with
    | ended => exact ⟨by simpa using hinv.rising, by simp⟩
    | failed => exact ⟨by simpa using hinv.rising, by simp⟩
    | running next =>
      have hleads := leads_of_step hne hstep
      have hnext := hleads.confined hconfined
      have hstack := hleads.inPlay hlevels
      obtain ⟨hrising, hrest⟩ := ih next hleads.stack_ne_nil hnext hstack
        (hleads.spaced hbare hconfined.frames hinv)
      refine ⟨by rwa [← List.append_assoc], fun frame hmem => ?_⟩
      rcases List.mem_append.mp hmem with hnew | hlater
      · have hmem := List.mem_of_mem_take hnew
        exact ⟨hbare _ (hnext.frames frame hmem).1, hstack frame hmem⟩
      · exact hrest frame hlater

/-- A request puts frames on the stack whose types are without a place, and under rising thresholds for
each key. -/
theorem rising_of_framesOf (rules : List Rule) (threshold : Level) (context : Context Unit)
    (hbare : graph.Bare root) (steps : Nat) :
    (Machine.framesOf graph.host rules steps root threshold context).Pairwise
      (fun earlier later => graph.key earlier.ref = graph.key later.ref →
        ¬ later.threshold ≤ earlier.threshold) ∧
    ∀ frame ∈ Machine.framesOf graph.host rules steps root threshold context,
      frame.ref.node = none ∧ InPlay rules threshold frame.threshold := by
  unfold Machine.framesOf
  split
  · exact ⟨.nil, by simp⟩
  · next missed hmiss =>
    split
    · exact ⟨.nil, by simp⟩
    · next frame entered henter =>
      have he := enter_of_start hmiss henter
      have hlevel := inPlay_of_enter (Or.inl rfl : InPlay rules threshold threshold) he
      have hconfined := confined_of_enter he
      have hroot := hbare _ (hconfined.frames frame (List.mem_singleton_self frame)).1
      obtain ⟨hrising, hrest⟩ :=
        rising_of_pushes (Machine.push { context := entered, stack := [] } frame) hbare
          (List.cons_ne_nil _ _) hconfined (by simpa [Machine.push] using hlevel)
          (spaced_of_enter (hbare root .refl) he) steps
      exact ⟨hrising, List.forall_mem_cons.mpr ⟨⟨hroot, hlevel⟩, hrest⟩⟩

/-- Frames of one identity are at most as many as the thresholds that they can have. -/
theorem countP_le_of_rising {frames : List Frame} (levels : List Level) (identity : Identity)
    (hrising : frames.Pairwise fun earlier later => graph.key earlier.ref = graph.key later.ref →
      ¬ later.threshold ≤ earlier.threshold)
    (hnodes : ∀ frame ∈ frames, frame.ref.node = none)
    (hlevels : ∀ frame ∈ frames, frame.threshold ∈ levels) :
    frames.countP (fun frame => graph.identity frame.ref.id = identity) ≤ levels.length := by
  rw [List.countP_eq_length_filter]
  generalize hsame : frames.filter (fun frame => graph.identity frame.ref.id = identity) = same
  have hmem : ∀ frame ∈ same, frame ∈ frames ∧ graph.identity frame.ref.id = identity := by
    intro frame h
    rw [← hsame] at h
    simpa using List.mem_filter.mp h
  have hkeys : ∀ frame ∈ same, graph.key frame.ref = .identity identity := by
    intro frame h
    rw [key_of_node_eq_none (hnodes frame (hmem frame h).1), (hmem frame h).2]
  have hpairs : same.Pairwise fun earlier later => graph.key earlier.ref = graph.key later.ref →
      ¬ later.threshold ≤ earlier.threshold := hsame ▸ hrising.filter _
  have hnodup : (same.map (·.threshold)).Nodup := by
    refine List.pairwise_map.mpr (hpairs.imp_of_mem fun hearlier hlater hlower heq => ?_)
    exact hlower ((hkeys _ hearlier).trans (hkeys _ hlater).symm) (heq ▸ Level.le_refl _)
  have hsub : same.map (·.threshold) ⊆ levels := by
    intro level hlevel
    obtain ⟨frame, hframe, rfl⟩ := List.mem_map.mp hlevel
    exact hlevels frame (hmem frame hframe).1
  simpa using (List.subperm_of_subset hnodup hsub).length_le

/-- The stack never holds two frames of one identity, and a request walks over the types of one identity
once, or twice if rules with an origin raise a lower threshold. -/
theorem descent_bounded (graph : TypeGraph) (rules : List Rule) (root : TypeRef) (threshold : Level)
    (context : Context Unit) (hbare : graph.Bare root) :
    (∀ machine, Machine.Moment graph.host rules root threshold context machine →
      (machine.stack.map fun frame => graph.identity frame.ref.id).Nodup) ∧
    ∀ steps identity,
      let frames := Machine.framesOf graph.host rules steps root threshold context
      frames.countP (fun frame => graph.identity frame.ref.id = identity) ≤ 2 ∧
      (threshold = .immutable ∨ (∀ rule ∈ rules, rule.origin = none) →
        frames.countP (fun frame => graph.identity frame.ref.id = identity) ≤ 1) := by
  constructor
  · intro machine hmoment
    obtain ⟨pushed, hinv⟩ := moment_spaced hbare hmoment
    have hframes := (moment_confined hmoment).frames
    have hkeys : machine.view.stack.map (fun frame => graph.key frame.ref) =
        (machine.stack.map fun frame => graph.identity frame.ref.id).map .identity := by
      rw [List.map_map]
      refine List.map_congr_left fun frame hmem => ?_
      exact key_of_node_eq_none (hbare _ (hframes frame hmem).1)
    exact (hkeys ▸ hinv.distinct).of_map _
  · intro steps identity frames
    obtain ⟨hrising, hframes⟩ := rising_of_framesOf rules threshold context hbare steps
    have hnodes := fun frame hmem => (hframes frame hmem).1
    constructor
    · refine countP_le_of_rising [threshold, .immutable] identity hrising hnodes ?_
      intro frame hmem
      rcases (hframes frame hmem).2 with hown | ⟨hhigh, _⟩
      · simp [hown]
      · simp [hhigh]
    · intro hone
      refine countP_le_of_rising [threshold] identity hrising hnodes ?_
      intro frame hmem
      rcases (hframes frame hmem).2 with hown | ⟨hhigh, rule, hrule, horigin⟩
      · simp [hown]
      · rcases hone with rfl | hplain
        · simp [hhigh]
        · exact absurd (hplain rule hrule) horigin

/-- A record that stands next to a sealed one which holds it: judged once by the way, and once more in
full, because a rule wants to know the sealed record in full. -/
def relay : TypeGraph where
  shape id :=
    match id.index with
    | 0 => .union [⟨1⟩, ⟨2⟩]
    | 1 | 2 => .object .plain
    | _ => .primitive
  properties id :=
    match id.index with
    | 1 => [.readonly "size" ⟨3⟩]
    | 2 => [.readonly "held" ⟨1⟩]
    | _ => []
  callable _ := false
  isReference _ := false
  typeArguments _ := []
  indexSignature _ _ := none
  identity id := ⟨id.index⟩
  typeName ref := { evaluated := if ref.id.index = 2 then "Sealed" else "Open" }
  declarationFiles _ := []
  program := { currentDirectory := "/" }

theorem relay_bare : relay.Bare { id := ⟨0⟩ } := by
  have hunplaced : relay.Unplaced := by
    refine unplaced_of_index (fun _ => rfl) ?_
    intro id whenTrue whenFalse h
    unfold relay at h
    dsimp only at h
    split at h <;> cases h
  intro ref h
  exact hunplaced.node_eq_none_of_reaches rfl h

theorem descent_relay :
    let rule : Rule := { specifier := { names := ["Sealed"] }, target := .known .mutable,
                         origin := some (.known .immutable) }
    let count := fun steps threshold =>
      (Machine.framesOf relay.host [rule] steps { id := ⟨0⟩ } threshold { state := () }).countP
        fun frame => relay.identity frame.ref.id = ⟨1⟩
    count 20 .readonlyShallow = 2 ∧ (∀ steps, count steps .readonlyShallow ≤ 2) ∧
      ∀ steps, count steps .immutable ≤ 1 := by
  intro rule count
  refine ⟨by decide +kernel, fun steps => ?_, fun steps => ?_⟩
  · exact ((descent_bounded relay [rule] { id := ⟨0⟩ } .readonlyShallow { state := () }
      relay_bare).2 steps ⟨1⟩).1
  · exact ((descent_bounded relay [rule] { id := ⟨0⟩ } .immutable { state := () }
      relay_bare).2 steps ⟨1⟩).2 (Or.inl rfl)

end TypeGraph

end Immutability
