import Immutability.Proofs.CacheMarks
import Immutability.Proofs.Simulation

/-!
# Asking again

Whatever an evaluation does to the cache on its way, the last entry that it files is that of the type it
was asked for, under the key by which the type is looked up. Descendants, other spellings and types of
the same identity write there too, but earlier. The ceiling of that entry is the threshold of the request
or a higher one, so the entry answers the request again, and every request with a lower threshold.
-/

set_option autoImplicit false

namespace Immutability

namespace Entry

variable {entry : Entry} {threshold lower : Level}

theorem ceiling_of_isAtLeast (h : entry.ceiling.isAtLeast (.known threshold) = true) :
    ∃ ceiling, entry.ceiling = .known ceiling ∧ threshold ≤ ceiling := by
  cases hc : entry.ceiling with
  | calculating =>
    rw [hc, calculating_isAtLeast] at h
    cases h
  | settled verdict =>
    rw [hc] at h
    cases verdict with
    | unknown => cases h
    | known ceiling =>
      rw [Status.isAtLeast_known] at h
      exact ⟨ceiling, rfl, of_decide_eq_true h⟩

theorem satisfies_of_le (h : entry.satisfies (.known threshold) = true) (hle : lower ≤ threshold) :
    entry.satisfies (.known lower) = true := by
  unfold satisfies at h ⊢
  rcases Bool.or_eq_true_iff.mp h with hvalue | hceiling
  · rw [hvalue, Bool.true_or]
  · obtain ⟨ceiling, hc, hbound⟩ := ceiling_of_isAtLeast hceiling
    have hlower : entry.ceiling.isAtLeast (.known lower) = true := by
      rw [hc, Status.isAtLeast_known]
      exact decide_eq_true (Level.le_trans hle hbound)
    rw [hlower, Bool.or_true]

theorem satisfies_of_not_isAtLeast (h : entry.value.isAtLeast entry.ceiling = false)
    (threshold : Level) : entry.satisfies (.known threshold) = true := by
  simp [satisfies, h]

/-- A value below its ceiling is exact and answers every request. -/
theorem satisfies_of_lt (h : entry.value.compare? entry.ceiling = some .lt) (threshold : Level) :
    entry.satisfies (.known threshold) = true := by
  apply satisfies_of_not_isAtLeast
  rw [Status.isAtLeast, h]

/-- An unknown value that answers one request answers every other. -/
theorem satisfies_of_unknown (hvalue : entry.value = .unknown)
    (h : entry.satisfies (.known threshold) = true) (other : Level) :
    entry.satisfies (.known other) = true := by
  apply satisfies_of_not_isAtLeast
  by_contra hatLeast
  rw [Bool.not_eq_false] at hatLeast
  have hceiling : entry.ceiling.isAtLeast (.known threshold) = true := by
    rcases Bool.or_eq_true_iff.mp h with hexact | hceiling
    · simp only [hatLeast, Bool.not_true, Bool.or_false] at hexact
      rw [hvalue] at hexact
      cases hexact
    · exact hceiling
  obtain ⟨ceiling, hc, _⟩ := ceiling_of_isAtLeast hceiling
  rw [hvalue, hc] at hatLeast
  cases hatLeast

end Entry

namespace TypeGraph

variable {graph : TypeGraph} {rules : List Rule} {ref root : TypeRef} {threshold : Level}
  {cache final : Cache} {status : Status} {context : Context Unit}

theorem shape_of_demand_nothing (h : graph.demand rules ref threshold = .nothing) :
    graph.shape ref.id = .error := by
  by_contra hs
  unfold demand at h
  rw [if_neg hs] at h
  split at h
  · cases h
  · split at h <;> cases h

/-- The last entry under the key of a type that was evaluated is its own, and answers the threshold that
was asked for. -/
theorem filed_of_evaluates (hshape : graph.shape ref.id ≠ .error)
    (h : graph.Evaluates rules ref threshold cache status final) :
    ∃ entry, final.get? (graph.key ref) = some entry ∧ entry.value = status ∧
      entry.satisfies (.known threshold) = true := by
  cases he : graph.enter rules ref threshold cache with
  | mk entered middle =>
    cases entered with
    | ready found =>
      obtain ⟨rfl, rfl⟩ := h.eq_of_ready he
      cases enters_of_enter he with
      | hit hl =>
        obtain ⟨entry, hget, hs, hvalue⟩ := Cache.lookup_eq_hit_iff.mp hl
        exact ⟨entry, hget, hvalue, hs⟩
      | nothing _ hd => exact absurd (shape_of_demand_nothing hd) hshape
      | forced => exact ⟨_, graph.get?_file_key _ _ _, rfl, Entry.satisfies_forced _ _⟩
      | leaf _ hd _ =>
        exact ⟨_, graph.get?_file_key _ _ _, rfl,
          satisfies_conclusion (threshold_le_of_demand hd) _ _⟩
    | frame frame =>
      -- whatever the walk wrote under the key, the conclusion is filed after it
      obtain ⟨verdict, walked, _, rfl, rfl⟩ := h.exists_follows he
      cases enters_of_enter he with
      | walk _ hd _ =>
        exact ⟨_, graph.get?_file_key _ _ _, rfl,
          satisfies_conclusion (threshold_le_of_demand hd) _ _⟩

theorem run_of_get? {entry : Entry} {verdict : Verdict}
    (hget : context.cache.get? (graph.key root) = some entry) (hvalue : entry.value = .settled verdict)
    (hs : entry.satisfies (.known threshold) = true) (rules : List Rule) (steps : Nat) :
    ∃ answer, Machine.run graph.host rules steps root threshold context = .ok answer ∧
      answer.status = .settled verdict ∧ answer.cacheHit = true ∧
      answer.context.cache = context.cache := by
  have hl : context.cache.lookup (graph.key root) (.known threshold) = .hit (.settled verdict) :=
    Cache.lookup_eq_hit_iff.mpr ⟨entry, hget, hs, hvalue⟩
  obtain ⟨noted, hrun, hcache⟩ := run_hit rules hl steps
  exact ⟨_, hrun, rfl, rfl, hcache⟩

/-- A request that was answered is answered again from the cache, with the same status and without a
change of the cache, under every threshold up to its own. If the status lies below the ceiling it was
filed under, or is unknown, it is so under every threshold. -/
theorem run_again (graph : TypeGraph) (rules : List Rule)
    (hrules : ∀ rule ∈ rules, rule.target ≠ .calculating) (root : TypeRef)
    (hshape : graph.shape root.id ≠ .error) (threshold : Level) (context : Context Unit) (steps : Nat)
    (result : Machine.Answer Unit)
    (h : Machine.run graph.host rules steps root threshold context = .ok result) :
    ∃ entry, result.context.cache.get? (graph.key root) = some entry ∧
      entry.value = result.status ∧
      ∀ other : Level, other ≤ threshold ∨ entry.value.compare? entry.ceiling = some .lt ∨
          entry.value = .unknown →
        ∀ (others : List Rule) (more : Nat), ∃ again,
          Machine.run graph.host others more root other result.context = .ok again ∧
          again.status = result.status ∧ again.cacheHit = true ∧
          again.context.cache = result.context.cache := by
  obtain ⟨entry, hget, hvalue, hs⟩ := filed_of_evaluates hshape (evaluates_of_run h)
  refine ⟨entry, hget, hvalue, ?_⟩
  intro other hother others more
  have hanswers : entry.satisfies (.known other) = true := by
    rcases hother with hle | hlt | hunknown
    · exact Entry.satisfies_of_le hs hle
    · exact Entry.satisfies_of_lt hlt other
    · exact Entry.satisfies_of_unknown hunknown hs other
  have hsettled := (settled_of_run hrules h).1
  cases hstatus : result.status with
  | calculating => exact absurd hstatus hsettled
  | settled verdict => exact run_of_get? hget (hvalue.trans hstatus) hanswers others more

/-- The record of the knot is asked for as it is written out. On its way the request comes to the record
again, in this spelling and in the bare one. -/
theorem run_knot_again :
    let rule : Rule := { specifier := { names := ["Knot"] }, target := .known .readonlyShallow,
                         origin := some (.known .immutable) }
    let root : TypeRef := ⟨⟨0⟩, some ⟨7⟩⟩
    ∃ result, Machine.run knot.host [rule] 20 root .readonlyDeep { state := () } = .ok result ∧
      result.status = .known .readonlyShallow ∧
      ∀ other more, ∃ again,
        Machine.run knot.host [rule] more root other result.context = .ok again ∧
        again.status = .known .readonlyShallow ∧ again.cacheHit = true ∧
        again.context.cache = result.context.cache := by
  intro rule root
  have hrun : (Machine.run knot.host [rule] 20 root .readonlyDeep { state := () }).toOption.map
      (fun result => (result.status, result.context.cache.get? (knot.key root))) =
      some (.known .readonlyShallow, some { value := .known .readonlyShallow }) := by
    decide +kernel
  cases hresult : Machine.run knot.host [rule] 20 root .readonlyDeep { state := () } with
  | error fault =>
    rw [hresult] at hrun
    cases hrun
  | ok result =>
    rw [hresult] at hrun
    obtain ⟨hstatus, hfiled⟩ := Prod.mk.inj (Option.some.inj hrun)
    obtain ⟨entry, hget, _, hagain⟩ := run_again knot [rule] (by simp [rule]) root (by decide)
      .readonlyDeep { state := () } 20 result hresult
    rw [hfiled] at hget
    cases hget
    refine ⟨result, rfl, hstatus, fun other more => ?_⟩
    rw [← hstatus]
    exact hagain other (Or.inr (Or.inl rfl)) [rule] more

end TypeGraph

end Immutability
