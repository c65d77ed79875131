import Immutability.Proofs.Entering

/-!
# Recursive evaluation

The natural recursive reading of a classification: a type is looked up or entered, its walk is followed
by evaluating each child it asks for, and the verdict is filed. There is no stack; the cache is handed
from child to child. The recursion need not come back on a graph with infinitely many keys, so calls are
nested only so deep, and nothing comes back from below that. What comes back does not depend on the
depth, which leaves two relations, `Evaluates` and `Follows`, without it.
-/

set_option autoImplicit false

namespace Immutability.TypeGraph

variable (graph : TypeGraph) (rules : List Rule)

mutual

def evaluate (depth : Nat) (ref : TypeRef) (threshold : Level) (cache : Cache) :
    Option (Status × Cache) :=
  match depth with
  | 0 => none
  | depth + 1 =>
    match graph.enter rules ref threshold cache with
    | (.ready status, cache) => some (status, cache)
    | (.frame frame, cache) =>
      (follow depth frame.threshold frame.task none cache).map fun found =>
        let entry := conclusion frame.threshold frame.pending found.1
        (entry.value, graph.file frame.ref entry found.2)

def follow (depth : Nat) (threshold : Level) (task : Task) (answer : Option Verdict)
    (cache : Cache) : Option (Verdict × Cache) :=
  match depth with
  | 0 => none
  | depth + 1 =>
    match task.resume graph.host () answer with
    | .done verdict => some (verdict, cache)
    | .await child task =>
      (evaluate depth child threshold cache).bind fun found =>
        follow depth threshold task (some found.1.settle) found.2

end

def Evaluates (ref : TypeRef) (threshold : Level) (cache : Cache) (status : Status)
    (final : Cache) : Prop :=
  ∃ depth, graph.evaluate rules depth ref threshold cache = some (status, final)

def Follows (threshold : Level) (task : Task) (answer : Option Verdict) (cache : Cache)
    (verdict : Verdict) (final : Cache) : Prop :=
  ∃ depth, graph.follow rules depth threshold task answer cache = some (verdict, final)

variable {graph rules} {ref child : TypeRef} {threshold : Level} {task rest : Task}
  {answer : Option Verdict} {verdict : Verdict} {status : Status} {frame : Frame}
  {cache middle final : Cache}

theorem evaluate_ready (h : graph.enter rules ref threshold cache = (.ready status, final))
    (depth : Nat) :
    graph.evaluate rules (depth + 1) ref threshold cache = some (status, final) := by
  rw [evaluate, h]

theorem evaluate_frame (h : graph.enter rules ref threshold cache = (.frame frame, middle))
    (depth : Nat) :
    graph.evaluate rules (depth + 1) ref threshold cache =
      (graph.follow rules depth frame.threshold frame.task none middle).map fun found =>
        ((conclusion frame.threshold frame.pending found.1).value,
          graph.file frame.ref (conclusion frame.threshold frame.pending found.1) found.2) := by
  rw [evaluate, h]

theorem follow_done (h : task.resume graph.host () answer = .done verdict) (depth : Nat) :
    graph.follow rules (depth + 1) threshold task answer cache = some (verdict, cache) := by
  rw [follow, h]

theorem follow_await (h : task.resume graph.host () answer = .await child rest) (depth : Nat) :
    graph.follow rules (depth + 1) threshold task answer cache =
      (graph.evaluate rules depth child threshold cache).bind fun found =>
        graph.follow rules depth threshold rest (some found.1.settle) found.2 := by
  rw [follow, h]

theorem evaluate_cases {depth : Nat} {found : Status × Cache}
    (h : graph.evaluate rules depth ref threshold cache = some found) :
    ∃ less, depth = less + 1 ∧
      (graph.enter rules ref threshold cache = (.ready found.1, found.2) ∨
        ∃ frame middle walked, graph.enter rules ref threshold cache = (.frame frame, middle) ∧
          graph.follow rules less frame.threshold frame.task none middle = some walked ∧
          found = ((conclusion frame.threshold frame.pending walked.1).value,
            graph.file frame.ref (conclusion frame.threshold frame.pending walked.1) walked.2)) := by
  cases depth with
  | zero =>
    rw [evaluate] at h
    cases h
  | succ less =>
    refine ⟨less, rfl, ?_⟩
    cases he : graph.enter rules ref threshold cache with
    | mk entered middle =>
      cases entered with
      | ready status =>
        rw [evaluate_ready he] at h
        cases h
        exact Or.inl rfl
      | frame frame =>
        rw [evaluate_frame he] at h
        obtain ⟨walked, hwalk, rfl⟩ := Option.map_eq_some_iff.mp h
        exact Or.inr ⟨frame, middle, walked, rfl, hwalk, rfl⟩

theorem follow_cases {depth : Nat} {found : Verdict × Cache}
    (h : graph.follow rules depth threshold task answer cache = some found) :
    ∃ less, depth = less + 1 ∧
      ((task.resume graph.host () answer = .done found.1 ∧ cache = found.2) ∨
        ∃ child rest reply, task.resume graph.host () answer = .await child rest ∧
          graph.evaluate rules less child threshold cache = some reply ∧
          graph.follow rules less threshold rest (some reply.1.settle) reply.2 = some found) := by
  cases depth with
  | zero =>
    rw [follow] at h
    cases h
  | succ less =>
    refine ⟨less, rfl, ?_⟩
    cases hr : task.resume graph.host () answer with
    | done verdict =>
      rw [follow_done hr] at h
      cases h
      exact Or.inl ⟨rfl, rfl⟩
    | await child rest =>
      rw [follow_await hr] at h
      obtain ⟨reply, hchild, hrest⟩ := Option.bind_eq_some_iff.mp h
      exact Or.inr ⟨child, rest, reply, rfl, hchild, hrest⟩

/-- What comes back within some depth comes back within every greater one. -/
theorem comes_back_of_le (depth : Nat) :
    (∀ {more ref threshold cache found}, depth ≤ more →
      graph.evaluate rules depth ref threshold cache = some found →
      graph.evaluate rules more ref threshold cache = some found) ∧
    (∀ {more threshold task answer cache found}, depth ≤ more →
      graph.follow rules depth threshold task answer cache = some found →
      graph.follow rules more threshold task answer cache = some found) := by
  -- One induction for both: a type follows its walk at a smaller depth, and a walk evaluates its
  -- children and goes on with itself at a smaller one.
  induction depth using Nat.strongRecOn with
  | ind depth ih =>
    constructor
    · intro more ref threshold cache found hle h
      obtain ⟨less, rfl, hentered⟩ := evaluate_cases h
      obtain ⟨more, rfl⟩ : ∃ fewer, more = fewer + 1 := ⟨more - 1, by omega⟩
      have hle := Nat.le_of_succ_le_succ hle
      rcases hentered with he | ⟨frame, middle, walked, he, hwalk, rfl⟩
      · rw [evaluate_ready he]
      · rw [evaluate_frame he, (ih less (Nat.lt_succ_self less)).2 hle hwalk, Option.map_some]
    · intro more threshold task answer cache found hle h
      obtain ⟨less, rfl, hresumed⟩ := follow_cases h
      obtain ⟨more, rfl⟩ : ∃ fewer, more = fewer + 1 := ⟨more - 1, by omega⟩
      have hle := Nat.le_of_succ_le_succ hle
      have ih := ih less (Nat.lt_succ_self less)
      rcases hresumed with ⟨hr, rfl⟩ | ⟨child, rest, reply, hr, hchild, hrest⟩
      · rw [follow_done hr]
      · rw [follow_await hr, ih.1 hle hchild, Option.bind_some]
        exact ih.2 hle hrest

theorem Evaluates.of_ready (h : graph.enter rules ref threshold cache = (.ready status, final)) :
    graph.Evaluates rules ref threshold cache status final :=
  ⟨1, evaluate_ready h 0⟩

theorem Evaluates.of_frame (h : graph.enter rules ref threshold cache = (.frame frame, middle))
    (hwalk : graph.Follows rules frame.threshold frame.task none middle verdict final) :
    graph.Evaluates rules ref threshold cache
      (conclusion frame.threshold frame.pending verdict).value
      (graph.file frame.ref (conclusion frame.threshold frame.pending verdict) final) := by
  obtain ⟨depth, hwalk⟩ := hwalk
  exact ⟨depth + 1, by rw [evaluate_frame h, hwalk, Option.map_some]⟩

theorem Follows.of_done (h : task.resume graph.host () answer = .done verdict) :
    graph.Follows rules threshold task answer cache verdict cache :=
  ⟨1, follow_done h 0⟩

theorem Follows.of_await (h : task.resume graph.host () answer = .await child rest)
    (hchild : graph.Evaluates rules child threshold cache status middle)
    (hrest : graph.Follows rules threshold rest (some status.settle) middle verdict final) :
    graph.Follows rules threshold task answer cache verdict final := by
  obtain ⟨one, hchild⟩ := hchild
  obtain ⟨two, hrest⟩ := hrest
  refine ⟨max one two + 1, ?_⟩
  rw [follow_await h, (comes_back_of_le one).1 (Nat.le_max_left one two) hchild, Option.bind_some]
  exact (comes_back_of_le two).2 (Nat.le_max_right one two) hrest

theorem Evaluates.eq_of_ready {found : Status} {left : Cache}
    (h : graph.Evaluates rules ref threshold cache found left)
    (he : graph.enter rules ref threshold cache = (.ready status, final)) :
    found = status ∧ left = final := by
  obtain ⟨depth, h⟩ := h
  obtain ⟨_, _, hready | ⟨_, _, _, hframe, _⟩⟩ := evaluate_cases h
  · rw [he] at hready
    cases hready
    exact ⟨rfl, rfl⟩
  · rw [he] at hframe
    cases hframe

theorem Evaluates.exists_follows (h : graph.Evaluates rules ref threshold cache status final)
    (he : graph.enter rules ref threshold cache = (.frame frame, middle)) :
    ∃ verdict walked, graph.Follows rules frame.threshold frame.task none middle verdict walked ∧
      status = (conclusion frame.threshold frame.pending verdict).value ∧
      final = graph.file frame.ref (conclusion frame.threshold frame.pending verdict) walked := by
  obtain ⟨depth, h⟩ := h
  obtain ⟨less, _, hready | ⟨_, _, walked, hframe, hwalk, hfound⟩⟩ := evaluate_cases h
  · rw [he] at hready
    cases hready
  · rw [he] at hframe
    cases hframe
    cases hfound
    exact ⟨walked.1, walked.2, ⟨less, hwalk⟩, rfl, rfl⟩

/-- Induction along an evaluation that comes back: one case for each way in which a type or a walk can
be done. -/
theorem evaluates_induction
    (types : TypeRef → Level → Cache → Status → Cache → Prop)
    (walks : Level → Task → Option Verdict → Cache → Verdict → Cache → Prop)
    (ready : ∀ {ref threshold cache status final},
      graph.enter rules ref threshold cache = (.ready status, final) →
      types ref threshold cache status final)
    (frame : ∀ {ref threshold cache middle final verdict} {frame : Frame},
      graph.enter rules ref threshold cache = (.frame frame, middle) →
      walks frame.threshold frame.task none middle verdict final →
      types ref threshold cache (conclusion frame.threshold frame.pending verdict).value
        (graph.file frame.ref (conclusion frame.threshold frame.pending verdict) final))
    (done : ∀ {threshold task answer cache verdict},
      task.resume graph.host () answer = .done verdict →
      walks threshold task answer cache verdict cache)
    (await : ∀ {threshold task answer cache middle final child rest status verdict},
      task.resume graph.host () answer = .await child rest →
      types child threshold cache status middle →
      walks threshold rest (some status.settle) middle verdict final →
      walks threshold task answer cache verdict final) :
    (∀ {ref threshold cache status final},
      graph.Evaluates rules ref threshold cache status final →
      types ref threshold cache status final) ∧
    (∀ {threshold task answer cache verdict final},
      graph.Follows rules threshold task answer cache verdict final →
      walks threshold task answer cache verdict final) := by
  have all : ∀ depth,
      (∀ {ref threshold cache found}, graph.evaluate rules depth ref threshold cache = some found →
        types ref threshold cache found.1 found.2) ∧
      (∀ {threshold task answer cache found},
        graph.follow rules depth threshold task answer cache = some found →
        walks threshold task answer cache found.1 found.2) := by
    intro depth
    induction depth using Nat.strongRecOn with
    | ind depth ih =>
      constructor
      · intro ref threshold cache found h
        obtain ⟨less, rfl, he | ⟨inner, middle, walked, he, hwalk, rfl⟩⟩ := evaluate_cases h
        · exact ready he
        · exact frame he ((ih less (Nat.lt_succ_self less)).2 hwalk)
      · intro threshold task answer cache found h
        obtain ⟨less, rfl, ⟨hr, rfl⟩ | ⟨child, rest, reply, hr, hchild, hrest⟩⟩ := follow_cases h
        · exact done hr
        · have ih := ih less (Nat.lt_succ_self less)
          exact await hr (ih.1 hchild) (ih.2 hrest)
  constructor
  · rintro ref threshold cache status final ⟨depth, h⟩
    exact (all depth).1 h
  · rintro threshold task answer cache verdict final ⟨depth, h⟩
    exact (all depth).2 h

end Immutability.TypeGraph
