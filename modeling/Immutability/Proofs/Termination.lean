import Immutability.Proofs.Children
import Immutability.Proofs.Simulation
import Mathlib.Data.Set.Card

/-!
# Classifications end

A graph may have cycles, and types are classified again when an entry was found under too low a ceiling,
so no measure on the graph itself falls. What falls is the number of keys that the cache does not answer
at the threshold of the walk. Every entry that is filed under a threshold, marks included, answers
requests up to that threshold, so an entry may be overwritten but a key stays answered. Entering a type
that was not answered marks it and so answers one key more.

A pending rule raises the threshold of a whole subtree to the highest one. There the threshold can be
raised no further, so that case is settled first.
-/

set_option autoImplicit false

namespace Immutability

def Cache.Answers (cache : Cache) (key : CacheKey) (threshold : Level) : Prop :=
  ∃ entry, cache.get? key = some entry ∧ entry.satisfies (.known threshold) = true

def Cache.KeepsAnswers (cache : Cache) (threshold : Level) (final : Cache) : Prop :=
  ∀ ⦃key asked⦄, asked ≤ threshold → cache.Answers key asked → final.Answers key asked

theorem Cache.answers_iff_hit {cache : Cache} {key : CacheKey} {threshold : Level} :
    cache.Answers key threshold ↔ ∃ status, cache.lookup key (.known threshold) = .hit status := by
  constructor
  · rintro ⟨entry, hget, hs⟩
    exact ⟨entry.value, lookup_eq_hit_iff.mpr ⟨entry, hget, hs, rfl⟩⟩
  · rintro ⟨status, hl⟩
    obtain ⟨entry, hget, hs, _⟩ := lookup_eq_hit_iff.mp hl
    exact ⟨entry, hget, hs⟩

namespace TypeGraph

variable {graph : TypeGraph} {rules : List Rule} {ref : TypeRef} {threshold : Level}
  {cache middle final : Cache} {key : CacheKey} {entry : Entry}

theorem answers_file (hentry : entry.satisfies (.known threshold) = true)
    (h : cache.Answers key threshold) : (graph.file ref entry cache).Answers key threshold := by
  by_cases hf : graph.Files ref key
  · exact ⟨entry, by rw [get?_file, if_pos hf], hentry⟩
  · obtain ⟨old, hget, hs⟩ := h
    exact ⟨old, by rw [get?_file, if_neg hf, hget], hs⟩

theorem keepsAnswers_of_enter {entered : Entered}
    (h : graph.enter rules ref threshold cache = (entered, final)) :
    cache.KeepsAnswers threshold final := by
  intro key asked hle ha
  cases enters_of_enter h with
  | hit => exact ha
  | nothing => exact ha
  | forced => exact answers_file (Entry.satisfies_forced _ _) ha
  | leaf _ hd =>
    have hhigh := Level.le_trans hle (threshold_le_of_demand hd)
    exact answers_file (satisfies_conclusion hhigh _ _)
      (answers_file (Entry.satisfies_inProgress _) ha)
  | walk => exact answers_file (Entry.satisfies_inProgress _) ha

theorem threshold_le_of_enter {frame : Frame}
    (h : graph.enter rules ref threshold cache = (.frame frame, middle)) :
    threshold ≤ frame.threshold := by
  cases enters_of_enter h with
  | walk _ hd => exact threshold_le_of_demand hd

/-- A key that is answered stays so in every evaluation under that threshold or a higher one, whatever
is written over its entry. -/
theorem keepsAnswers_of_evaluates {status : Status}
    (h : graph.Evaluates rules ref threshold cache status final) :
    cache.KeepsAnswers threshold final := by
  refine (evaluates_induction (fun _ threshold cache _ final => cache.KeepsAnswers threshold final)
    (fun threshold _ _ cache _ final => cache.KeepsAnswers threshold final) ?ready ?frame ?done ?await).1 h
  case ready =>
    intro ref threshold cache status final he
    exact keepsAnswers_of_enter he
  case frame =>
    intro ref threshold cache middle final verdict frame he hwalk key asked hle ha
    have hhigh := Level.le_trans hle (threshold_le_of_enter he)
    exact answers_file (satisfies_conclusion hhigh _ _)
      (hwalk hhigh (keepsAnswers_of_enter he hle ha))
  case done =>
    intro threshold task answer cache verdict _ key asked _ ha
    exact ha
  case await =>
    intro threshold task answer cache middle final child rest status verdict _ hchild hrest
      key asked hle ha
    exact hrest hle (hchild hle ha)

/-! ### Keys without an answer -/

noncomputable def unanswered (keys : Set CacheKey) (threshold : Level) (cache : Cache) : Nat :=
  {key ∈ keys | ¬ cache.Answers key threshold}.ncard

theorem unanswered_le_of_evaluates {keys : Set CacheKey} (hkeys : keys.Finite) {status : Status}
    (h : graph.Evaluates rules ref threshold cache status final) :
    unanswered keys threshold final ≤ unanswered keys threshold cache := by
  apply Set.ncard_le_ncard _ (hkeys.subset (Set.sep_subset _ _))
  rintro key ⟨hmem, hno⟩
  exact ⟨hmem, fun ha => hno (keepsAnswers_of_evaluates h (Level.le_refl _) ha)⟩

theorem unanswered_mark_lt {keys : Set CacheKey} (hkeys : keys.Finite)
    (hmem : graph.key ref ∈ keys) (hno : ¬ cache.Answers (graph.key ref) threshold) :
    unanswered keys threshold (graph.file ref .inProgress cache) <
      unanswered keys threshold cache := by
  apply Set.ncard_lt_ncard _ (hkeys.subset (Set.sep_subset _ _))
  refine ⟨?_, fun hsub => ?_⟩
  · rintro key ⟨hmem, hopen⟩
    exact ⟨hmem, fun ha => hopen (answers_file (Entry.satisfies_inProgress _) ha)⟩
  · have hmarked := (hsub ⟨hmem, hno⟩).2
    exact hmarked ⟨.inProgress, graph.get?_file_key ref .inProgress cache, rfl⟩

/-! ### Evaluations come back -/

/-- A walk comes back if its children do, from every cache with at most so many keys unanswered. -/
theorem exists_follows_of_unanswered {keys : Set CacheKey} (hkeys : keys.Finite) {bound : Nat}
    {allowed : TypeRef → Prop}
    (hchildren : ∀ child, allowed child → ∀ cache, unanswered keys threshold cache ≤ bound →
      ∃ status final, graph.Evaluates rules child threshold cache status final)
    {task : Task} (hallowed : ∀ child ∈ task.remaining graph, allowed child)
    (hbound : unanswered keys threshold cache ≤ bound) :
    ∃ verdict final, graph.Follows rules threshold task none cache verdict final := by
  have hkeeps : ∀ child, allowed child → ∀ cache, unanswered keys threshold cache ≤ bound →
      ∃ status final, graph.Evaluates rules child threshold cache status final ∧ True ∧
        unanswered keys threshold final ≤ bound := by
    intro child hc cache hle
    obtain ⟨status, final, h⟩ := hchildren child hc cache hle
    exact ⟨status, final, h, trivial, (unanswered_le_of_evaluates hkeys h).trans hle⟩
  obtain ⟨verdict, final, h, _⟩ := exists_follows (unanswered keys threshold · ≤ bound)
    (fun _ _ => True) hkeeps hallowed none hbound
  exact ⟨verdict, final, h⟩

theorem exists_evaluates_of_follows
    (h : ∀ judged pending task, ¬ cache.Answers (graph.key ref) threshold →
      graph.demand rules ref threshold = .judged judged pending →
      graph.approach ref.id (graph.shape ref.id) judged = .walk task →
      ∃ verdict final,
        graph.Follows rules judged task none (graph.file ref .inProgress cache) verdict final) :
    ∃ status final, graph.Evaluates rules ref threshold cache status final := by
  cases he : graph.enter rules ref threshold cache with
  | mk entered middle =>
    cases entered with
    | ready status => exact ⟨status, middle, .of_ready he⟩
    | frame frame =>
      cases enters_of_enter he with
      | walk hmiss hd ha =>
        have hno : ¬ cache.Answers (graph.key ref) threshold := by
          rw [Cache.answers_iff_hit, not_exists]
          exact hmiss
        obtain ⟨verdict, final, hwalk⟩ := h _ _ _ hno hd ha
        exact ⟨_, _, .of_frame he hwalk⟩

def keysBelow (graph : TypeGraph) (root : TypeRef) : Set CacheKey :=
  {key | ∃ ref, graph.Reaches root ref ∧ graph.key ref = key}

theorem exists_evaluates_of_immutable {root : TypeRef} (hkeys : (graph.keysBelow root).Finite)
    (hhigh : threshold ≠ .immutable → ∀ ref, graph.Reaches root ref → ∀ cache,
      ∃ status final, graph.Evaluates rules ref .immutable cache status final)
    (href : graph.Reaches root ref) (cache : Cache) :
    ∃ status final, graph.Evaluates rules ref threshold cache status final := by
  -- The induction is on the keys that are left without an answer: marking the type answers its key.
  induction hn : unanswered (graph.keysBelow root) threshold cache using Nat.strongRecOn
    generalizing ref cache with
  | ind n ih =>
    apply exists_evaluates_of_follows
    intro judged pending task hno hd ha
    have hallowed : ∀ child ∈ task.remaining graph, graph.Reaches root child :=
      fun child hc => href.tail (mem_children_of_walk ha hc)
    by_cases hj : judged = threshold
    · subst hj
      have hless := unanswered_mark_lt hkeys ⟨ref, href, rfl⟩ hno
      refine exists_follows_of_unanswered hkeys (fun child hc cache hle => ?_) hallowed
        (Nat.le_refl _)
      exact ih _ (hn ▸ hle.trans_lt hless) hc cache rfl
    · rcases demand_judged_cases hd with ⟨heq, _⟩ | ⟨rfl, _⟩
      · exact absurd heq hj
      · exact exists_follows_of_unanswered hkeys
          (fun child hc cache _ => hhigh (Ne.symm hj) child hc cache) hallowed (Nat.le_refl _)

theorem exists_evaluates (rules : List Rule) {root : TypeRef}
    (hkeys : (graph.keysBelow root).Finite) (threshold : Level) (cache : Cache) :
    ∃ status final, graph.Evaluates rules root threshold cache status final := by
  have himmutable : ∀ ref, graph.Reaches root ref → ∀ cache,
      ∃ status final, graph.Evaluates rules ref .immutable cache status final :=
    fun ref href cache => exists_evaluates_of_immutable hkeys (fun hne => absurd rfl hne) href cache
  exact exists_evaluates_of_immutable hkeys (fun _ => himmutable) .refl cache

theorem finite_keysBelow {root : TypeRef}
    (hidentities : {identity | ∃ ref, graph.Reaches root ref ∧
      graph.identity ref.id = identity}.Finite)
    (hnodes : {node | ∃ ref, graph.Reaches root ref ∧ ref.node = some node}.Finite) :
    (graph.keysBelow root).Finite := by
  apply ((hidentities.image CacheKey.identity).union (hnodes.image CacheKey.node)).subset
  rintro key ⟨⟨id, node⟩, href, rfl⟩
  cases node with
  | none => exact Or.inl ⟨_, ⟨_, href, rfl⟩, rfl⟩
  | some node => exact Or.inr ⟨_, ⟨_, href, rfl⟩, rfl⟩

/-- A request below which there are finitely many identities and places ends with an answer after
finitely many steps, unless it is refused at once because the cache has its root marked. -/
theorem run_ends (graph : TypeGraph) (rules : List Rule) (root : TypeRef) (threshold : Level)
    (context : Context Unit)
    (hidentities : {identity | ∃ ref, graph.Reaches root ref ∧
      graph.identity ref.id = identity}.Finite)
    (hnodes : {node | ∃ ref, graph.Reaches root ref ∧ ref.node = some node}.Finite) :
    (∃ steps answer, ∀ more, steps ≤ more →
      Machine.run graph.host rules more root threshold context = .ok answer) ∨
    ((∃ entry, context.cache.get? (graph.key root) = some entry ∧ entry.value = .calculating) ∧
      ∀ steps, Machine.run graph.host rules steps root threshold context =
        .error (.stillCalculating root.id)) := by
  by_cases hmarked : ∃ entry, context.cache.get? (graph.key root) = some entry ∧
      entry.value = .calculating
  · right
    refine ⟨hmarked, ?_⟩
    obtain ⟨entry, hget, hvalue⟩ := hmarked
    have hsatisfies : entry.satisfies (.known threshold) = true := by
      simp [Entry.satisfies, hvalue, Status.isCalculating]
    have hl := Cache.lookup_eq_hit_iff.mpr ⟨entry, hget, hsatisfies, hvalue⟩
    exact run_marked hl
  · left
    have hroot : ∀ entry, context.cache.get? (graph.key root) = some entry →
        entry.value ≠ .calculating :=
      fun entry hget hvalue => hmarked ⟨entry, hget, hvalue⟩
    obtain ⟨status, final, hfound⟩ :=
      exists_evaluates rules (finite_keysBelow hidentities hnodes) threshold context.cache
    obtain ⟨steps, answer, hrun, _⟩ := run_of_evaluates hroot hfound
    exact ⟨steps, answer, fun more hle => Machine.run_ok_of_le hrun hle⟩

/-- A record whose property is always a fresh copy of it: infinitely many types of one identity. -/
def unrolled : TypeGraph where
  shape _ := .object .plain
  properties id := [.readonly "next" ⟨id.index + 1⟩]
  callable _ := false
  isReference _ := false
  typeArguments _ := []
  indexSignature _ _ := none
  identity _ := ⟨0⟩
  typeName _ := { evaluated := "Unrolled" }
  declarationFiles _ := []
  program := { currentDirectory := "/" }

theorem run_unrolled_ends :
    ∃ steps answer, ∀ more, steps ≤ more →
      Machine.run unrolled.host [] more ⟨⟨0⟩, none⟩ .immutable { state := () } = .ok answer := by
  have hidentities : {identity | ∃ ref, unrolled.Reaches ⟨⟨0⟩, none⟩ ref ∧
      unrolled.identity ref.id = identity}.Finite := by
    apply (Set.finite_singleton (⟨0⟩ : Identity)).subset
    rintro identity ⟨ref, _, rfl⟩
    rfl
  have hbare : ∀ ref, unrolled.Reaches ⟨⟨0⟩, none⟩ ref → ref.node = none := by
    intro ref h
    cases h with
    | refl => rfl
    | tail _ hchild => exact (mem_bare.mp hchild).1
  have hnodes : {node | ∃ ref, unrolled.Reaches ⟨⟨0⟩, none⟩ ref ∧ ref.node = some node}.Finite := by
    apply Set.finite_empty.subset
    rintro node ⟨ref, h, hnode⟩
    rw [hbare ref h] at hnode
    cases hnode
  rcases run_ends unrolled [] ⟨⟨0⟩, none⟩ .immutable { state := () } hidentities hnodes with
    hends | ⟨⟨entry, hget, _⟩, _⟩
  · exact hends
  · cases hget

end TypeGraph

end Immutability
