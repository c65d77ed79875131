import Immutability.Machine

/-!
# Entering a type of a graph

A type graph has no state, so what entering a type does depends on the type, the threshold and the
cache alone. `TypeGraph.enter` says it without the journal. `enter_view` and `conclude_view` identify
it with what the machine does.
-/

set_option autoImplicit false

namespace Immutability

/-- What a type calls for when the cache does not answer. -/
inductive Demand where
  /-- The type could not be produced: it contributes nothing. -/
  | nothing
  /-- A rule without an origin decides. -/
  | forced (target : Status)
  /-- The type is judged by its structure, and a rule may wait for the verdict. -/
  | judged (threshold : Level) (pending : Option PendingRule)
deriving DecidableEq, Repr

/-- The entry that a verdict leads to, after a pending rule had its say. -/
def conclusion (threshold : Level) (pending : Option PendingRule) (verdict : Verdict) : Entry :=
  match pending with
  | some rule =>
    if (Status.settled verdict).isBetween rule.origin rule.target then { value := rule.target }
    else { value := verdict, ceiling := .known threshold }
  | none => { value := verdict, ceiling := .known threshold }

theorem isAtLeast_calculating (verdict : Verdict) :
    (Status.settled verdict).isAtLeast .calculating = false := by
  cases verdict <;> rfl

theorem calculating_isAtLeast (verdict : Verdict) :
    Status.calculating.isAtLeast (.settled verdict) = false := by
  cases verdict <;> rfl

/-- A rule whose target is the mark never applies: the mark is comparable to itself alone. -/
theorem isBetween_calculating (verdict : Verdict) (origin : Status) :
    (Status.settled verdict).isBetween origin .calculating = false := by
  simp [Status.isBetween, isAtLeast_calculating, calculating_isAtLeast]

theorem conclusion_settled (threshold : Level) (pending : Option PendingRule) (verdict : Verdict) :
    ∃ found, (conclusion threshold pending verdict).value = .settled found := by
  cases pending with
  | none => exact ⟨verdict, rfl⟩
  | some rule =>
    unfold conclusion
    cases hb : (Status.settled verdict).isBetween rule.origin rule.target with
    | false => exact ⟨verdict, by simp [hb]⟩
    | true =>
      cases ht : rule.target with
      | settled found => exact ⟨found, by dsimp only; rw [if_pos hb, ht]⟩
      | calculating =>
        rw [ht, isBetween_calculating] at hb
        exact absurd hb (by decide)

theorem conclusion_ne_calculating (threshold : Level) (pending : Option PendingRule)
    (verdict : Verdict) : (conclusion threshold pending verdict).value ≠ .calculating := by
  obtain ⟨found, hf⟩ := conclusion_settled threshold pending verdict
  simp [hf]

theorem Entry.satisfies_inProgress (threshold : Level) :
    Entry.inProgress.satisfies (.known threshold) = true := rfl

theorem Entry.satisfies_forced (target : Status) (threshold : Level) :
    ({ value := target } : Entry).satisfies (.known threshold) = true := by
  simp [satisfies, Level.le_immutable]

theorem satisfies_conclusion {asked threshold : Level} (hle : asked ≤ threshold)
    (pending : Option PendingRule) (verdict : Verdict) :
    (conclusion threshold pending verdict).satisfies (.known asked) = true := by
  have hplain : ({ value := verdict, ceiling := .known threshold } : Entry).satisfies
      (.known asked) = true := by
    simp [Entry.satisfies, hle]
  cases pending with
  | none => exact hplain
  | some rule =>
    unfold conclusion
    dsimp only
    split
    · exact Entry.satisfies_forced _ _
    · exact hplain

theorem Cache.lookup_eq_hit_iff {cache : Cache} {key : CacheKey} {threshold status : Status} :
    cache.lookup key threshold = .hit status ↔
      ∃ entry, cache.get? key = some entry ∧ entry.satisfies threshold = true ∧
        entry.value = status := by
  unfold Cache.lookup
  cases cache.get? key with
  | none => simp
  | some entry => cases hs : entry.satisfies threshold <;> simp [hs]

namespace TypeGraph

variable (graph : TypeGraph) (rules : List Rule)

def key (ref : TypeRef) : CacheKey := ref.key (graph.identity ref.id)

def file (ref : TypeRef) (entry : Entry) (cache : Cache) : Cache :=
  cache.record ref (graph.identity ref.id) entry

def Files (ref : TypeRef) (key : CacheKey) : Prop :=
  key = .identity (graph.identity ref.id) ∨ ref.node.map CacheKey.node = some key

instance (ref : TypeRef) (key : CacheKey) : Decidable (graph.Files ref key) :=
  inferInstanceAs (Decidable (_ ∨ _))

theorem get?_file (ref : TypeRef) (entry : Entry) (cache : Cache) (key : CacheKey) :
    (graph.file ref entry cache).get? key =
      if graph.Files ref key then some entry else cache.get? key :=
  Cache.get?_record cache ref (graph.identity ref.id) entry key

theorem files_key (ref : TypeRef) : graph.Files ref (graph.key ref) := by
  rcases ref with ⟨id, _ | node⟩
  · exact Or.inl rfl
  · exact Or.inr rfl

theorem get?_file_key (ref : TypeRef) (entry : Entry) (cache : Cache) :
    (graph.file ref entry cache).get? (graph.key ref) = some entry := by
  rw [get?_file, if_pos (graph.files_key ref)]

def demand (ref : TypeRef) (threshold : Level) : Demand :=
  if graph.shape ref.id = .error then .nothing
  else
    match Rule.find? rules (graph.host.subject () ref) with
    | none => .judged threshold none
    | some rule =>
      match rule.origin with
      | none => .forced rule.target
      | some origin => .judged .immutable (some { origin, target := rule.target })

def approach (id : TypeId) (shape : Shape) (threshold : Level) : Approach :=
  (Immutability.approach graph.host id shape threshold { state := () }).1

def visit (ref : TypeRef) (threshold : Level) (cache : Cache) : Entered × Cache :=
  match graph.demand rules ref threshold with
  | .nothing => (.ready .unknown, cache)
  | .forced target => (.ready target, graph.file ref { value := target } cache)
  | .judged threshold pending =>
    let marked := graph.file ref .inProgress cache
    match graph.approach ref.id (graph.shape ref.id) threshold with
    | .leaf verdict =>
      let entry := conclusion threshold pending verdict
      (.ready entry.value, graph.file ref entry marked)
    | .walk task => (.frame { ref, threshold, pending, task }, marked)

def enter (ref : TypeRef) (threshold : Level) (cache : Cache) : Entered × Cache :=
  match cache.lookup (graph.key ref) (.known threshold) with
  | .hit status => (.ready status, cache)
  | _ => graph.visit rules ref threshold cache

theorem enter_hit {ref : TypeRef} {threshold : Level} {cache : Cache} {status : Status}
    (h : cache.lookup (graph.key ref) (.known threshold) = .hit status) :
    graph.enter rules ref threshold cache = (.ready status, cache) := by
  rw [enter, h]

theorem enter_miss {ref : TypeRef} {threshold : Level} {cache : Cache}
    (h : ∀ status, cache.lookup (graph.key ref) (.known threshold) ≠ .hit status) :
    graph.enter rules ref threshold cache = graph.visit rules ref threshold cache := by
  rw [enter]
  split
  · next status hl => exact absurd hl (h status)
  · rfl

variable {graph rules}

theorem mem_of_demand_forced {ref : TypeRef} {threshold : Level} {target : Status}
    (h : graph.demand rules ref threshold = .forced target) :
    ∃ rule ∈ rules, rule.origin = none ∧ rule.target = target := by
  unfold demand at h
  split at h
  · cases h
  · split at h
    · cases h
    · next rule hr =>
      split at h
      · next ho =>
        cases h
        exact ⟨rule, List.mem_of_find?_eq_some hr, ho, rfl⟩
      · cases h

theorem demand_judged_cases {ref : TypeRef} {threshold judged : Level}
    {pending : Option PendingRule}
    (h : graph.demand rules ref threshold = .judged judged pending) :
    (judged = threshold ∧ pending = none) ∨
    (judged = .immutable ∧ ∃ rule ∈ rules, ∃ origin, rule.origin = some origin ∧
      pending = some { origin, target := rule.target }) := by
  unfold demand at h
  split at h
  · cases h
  · split at h
    · cases h
      exact Or.inl ⟨rfl, rfl⟩
    · next rule hr =>
      split at h
      · cases h
      · next origin ho =>
        cases h
        exact Or.inr ⟨rfl, rule, List.mem_of_find?_eq_some hr, origin, ho, rfl⟩

theorem threshold_le_of_demand {ref : TypeRef} {threshold judged : Level}
    {pending : Option PendingRule}
    (h : graph.demand rules ref threshold = .judged judged pending) : threshold ≤ judged := by
  rcases demand_judged_cases h with ⟨rfl, _⟩ | ⟨rfl, _⟩
  · exact Level.le_refl _
  · exact Level.le_immutable _

/-- The ways in which a type can be entered, with what each leaves in the cache. -/
inductive Enters (graph : TypeGraph) (rules : List Rule) (ref : TypeRef) (threshold : Level)
    (cache : Cache) : Entered → Cache → Prop where
  | hit {status : Status} :
      cache.lookup (graph.key ref) (.known threshold) = .hit status →
      Enters graph rules ref threshold cache (.ready status) cache
  | nothing :
      (∀ status, cache.lookup (graph.key ref) (.known threshold) ≠ .hit status) →
      graph.demand rules ref threshold = .nothing →
      Enters graph rules ref threshold cache (.ready .unknown) cache
  | forced {target : Status} :
      (∀ status, cache.lookup (graph.key ref) (.known threshold) ≠ .hit status) →
      graph.demand rules ref threshold = .forced target →
      Enters graph rules ref threshold cache (.ready target)
        (graph.file ref { value := target } cache)
  | leaf {judged : Level} {pending : Option PendingRule} {verdict : Verdict} :
      (∀ status, cache.lookup (graph.key ref) (.known threshold) ≠ .hit status) →
      graph.demand rules ref threshold = .judged judged pending →
      graph.approach ref.id (graph.shape ref.id) judged = .leaf verdict →
      Enters graph rules ref threshold cache (.ready (conclusion judged pending verdict).value)
        (graph.file ref (conclusion judged pending verdict) (graph.file ref .inProgress cache))
  | walk {judged : Level} {pending : Option PendingRule} {task : Task} :
      (∀ status, cache.lookup (graph.key ref) (.known threshold) ≠ .hit status) →
      graph.demand rules ref threshold = .judged judged pending →
      graph.approach ref.id (graph.shape ref.id) judged = .walk task →
      Enters graph rules ref threshold cache
        (.frame { ref, threshold := judged, pending, task }) (graph.file ref .inProgress cache)

theorem enters_of_enter {ref : TypeRef} {threshold : Level} {cache final : Cache}
    {entered : Entered} (h : graph.enter rules ref threshold cache = (entered, final)) :
    Enters graph rules ref threshold cache entered final := by
  by_cases hl : ∃ status, cache.lookup (graph.key ref) (.known threshold) = .hit status
  · obtain ⟨status, hl⟩ := hl
    rw [graph.enter_hit rules hl] at h
    cases h
    exact .hit hl
  · have hmiss := not_exists.mp hl
    rw [graph.enter_miss rules hmiss, visit] at h
    split at h
    · next hd =>
      cases h
      exact .nothing hmiss hd
    · next hd =>
      cases h
      exact .forced hmiss hd
    · next hd =>
      dsimp only at h
      split at h
      · next ha =>
        cases h
        exact .leaf hmiss hd ha
      · next ha =>
        cases h
        exact .walk hmiss hd ha

variable (graph rules)

theorem approach_host (id : TypeId) (shape : Shape) (threshold : Level) (context : Context Unit) :
    Immutability.approach graph.host id shape threshold context =
      (graph.approach id shape threshold, context) := by
  cases shape with
  | object kind =>
    -- The choice of a callable type is made before the definitions are opened, which keeps the two
    -- sides in one form.
    cases hc : (graph.properties id).isEmpty && graph.callable id with
    | true => simp [approach, Immutability.approach, Context.list, host, hc]
    | false =>
      simp only [approach, Immutability.approach, Context.list, host, List.foldl_nil, hc,
        Bool.false_eq_true, ↓reduceIte]
      cases kind with
      | tuple readonly => cases readonly <;> rfl
      | _ => rfl
  | _ => rfl

theorem conclude_view (ref : TypeRef) (threshold : Level) (pending : Option PendingRule)
    (verdict : Verdict) (context : Context Unit) :
    (conclude graph.host ref threshold pending verdict context).1 =
        (conclusion threshold pending verdict).value ∧
      (conclude graph.host ref threshold pending verdict context).2.cache =
        graph.file ref (conclusion threshold pending verdict) context.cache := by
  cases pending with
  | none => exact ⟨rfl, rfl⟩
  | some rule =>
    unfold conclude conclusion
    dsimp only
    split <;> exact ⟨rfl, rfl⟩

theorem descend_view (ref : TypeRef) (threshold : Level) (pending : Option PendingRule)
    (context : Context Unit) :
    ((descend graph.host ref (graph.shape ref.id) threshold pending context).1,
      (descend graph.host ref (graph.shape ref.id) threshold pending context).2.cache) =
      match graph.approach ref.id (graph.shape ref.id) threshold with
      | .leaf verdict =>
        (.ready (conclusion threshold pending verdict).value,
          graph.file ref (conclusion threshold pending verdict)
            (graph.file ref .inProgress context.cache))
      | .walk task =>
        (.frame { ref, threshold, pending, task }, graph.file ref .inProgress context.cache) := by
  unfold descend
  simp only [approach_host]
  cases graph.approach ref.id (graph.shape ref.id) threshold with
  | walk task => rfl
  | leaf verdict =>
    have hc := graph.conclude_view ref threshold pending verdict
      ((context.record graph.host ref .inProgress).note fun _ => .markedCalculating ref.id)
    exact Prod.ext (congrArg Entered.ready hc.1) hc.2

theorem visit_view (ref : TypeRef) (threshold : Level) (context : Context Unit) :
    ((Immutability.visit graph.host rules ref threshold context).1,
      (Immutability.visit graph.host rules ref threshold context).2.cache) =
      graph.visit rules ref threshold context.cache := by
  unfold Immutability.visit visit demand
  by_cases hs : graph.shape ref.id = .error
  · simp [hs, host, Context.note]
  have hs' : ¬ graph.host.shape context.state ref.id = .error := hs
  rw [if_neg hs, if_neg hs']
  by_cases he : rules.isEmpty = true
  · rw [List.isEmpty_iff.mp he]
    exact graph.descend_view ref threshold none context
  rw [if_neg he]
  cases hr : Rule.find? rules (graph.host.subject context.state ref) with
  | none => exact graph.descend_view ref threshold none context
  | some rule =>
    dsimp only
    cases ho : rule.origin with
    | none => rfl
    | some origin => exact graph.descend_view ref .immutable _ _

/-- Entering a type of a graph on the machine, with the journal left out. -/
theorem enter_view (ref : TypeRef) (threshold : Level) (context : Context Unit) :
    ((Immutability.enter graph.host rules ref threshold context).1,
      (Immutability.enter graph.host rules ref threshold context).2.cache) =
      graph.enter rules ref threshold context.cache := by
  have hk : context.key graph.host ref = graph.key ref := rfl
  unfold Immutability.enter enter Context.consult
  cases hl : context.cache.lookup (graph.key ref) (.known threshold) with
  | absent =>
    simp only [hk, hl]
    exact graph.visit_view rules ref threshold context
  | below value =>
    simp only [hk, hl]
    exact graph.visit_view rules ref threshold (context.note _)
  | hit value =>
    simp only [hk, hl]
    rfl

theorem enter_of_view {graph : TypeGraph} {rules : List Rule} {ref : TypeRef} {threshold : Level}
    {context : Context Unit} {entered : Entered} {final : Cache}
    (h : graph.enter rules ref threshold context.cache = (entered, final)) :
    ∃ later, Immutability.enter graph.host rules ref threshold context = (entered, later) ∧
      later.cache = final := by
  have hv := graph.enter_view rules ref threshold context
  rw [h, Prod.mk.injEq] at hv
  exact ⟨_, Prod.ext hv.1 rfl, hv.2⟩

end TypeGraph

end Immutability
