import Immutability.Verdict
import Mathlib.Order.MinMax

/-!
# Verdicts found under a threshold

A search under a threshold may stop as soon as the threshold is reached. What it finds approximates the
exact verdict: it is the exact verdict where that lies below the threshold, and otherwise lies between
the threshold and the exact verdict. Approximation is stable under everything that a walk does with
the verdicts of children, and a bound that is no higher than the threshold cannot tell an approximation
from the exact verdict (`Approximates.cap_eq`).
-/

set_option autoImplicit false

namespace Immutability

instance : LinearOrder Level where
  le_refl := Level.le_refl
  le_trans _ _ _ := Level.le_trans
  le_antisymm _ _ := Level.le_antisymm
  le_total := Level.le_total
  toDecidableLE := inferInstance

namespace Verdict

/-- The least of some verdicts; unknown ones are ignored. -/
def meetAll (verdicts : List Verdict) : Verdict := verdicts.foldr meet unknown

def joinAll (verdicts : List Verdict) : Verdict := verdicts.foldr join unknown

/-- A known verdict that is below read-only on the surface is moved up to it. -/
def raise : Verdict → Verdict
  | unknown => unknown
  | known level => known (max .readonlyShallow level)

end Verdict

namespace Level

variable {lower upper : Level} {a b : Verdict}

theorem cap_le (upper : Level) (a : Verdict) : upper.cap a ≤ upper := by
  cases a with
  | unknown => exact le_refl upper
  | known bound => exact min_le_left upper bound

theorem cap_cap (upper : Level) (a b : Verdict) : (upper.cap a).cap b = upper.cap (a.meet b) := by
  cases a with
  | unknown => rfl
  | known bound =>
    cases b with
    | unknown => rfl
    | known other => exact min_assoc upper bound other

/-- Once the bounds have met, nothing lowers the result any more. -/
theorem max_cap_of_le (h : upper ≤ lower) (a : Verdict) : max lower (upper.cap a) = lower :=
  max_eq_left (le_trans (cap_le upper a) h)

theorem cap_join_self (upper : Level) (a b : Verdict) :
    upper.cap ((a.join (.known upper)).join b) = upper := by
  cases a <;> cases b <;> simp [cap, Verdict.join]

theorem cap_join_immutable (upper : Level) (a b : Verdict) :
    upper.cap ((a.join (.known .immutable)).join b) = upper := by
  have htop := le_immutable upper
  cases a <;> cases b <;> simp [cap, Verdict.join, htop]

end Level

/-- A verdict as it may be found under a threshold, and the exact one. -/
inductive Approximates (threshold : Level) : Verdict → Verdict → Prop where
  | exact (verdict : Verdict) : Approximates threshold verdict verdict
  | between {found exact : Level} :
      threshold ≤ found → found ≤ exact → Approximates threshold (.known found) (.known exact)

namespace Approximates

variable {threshold upper : Level} {found exact found' exact' : Verdict}

theorem eq_of_immutable (h : Approximates .immutable found exact) : found = exact := by
  cases h with
  | exact => rfl
  | between hf he =>
    exact congrArg _ (le_antisymm he ((Level.le_immutable _).trans hf))

/-- A bound within the threshold does not tell an approximation from the exact verdict. -/
theorem cap_eq (h : Approximates threshold found exact) (hle : upper ≤ threshold) :
    upper.cap found = upper.cap exact := by
  cases h with
  | exact => rfl
  | between hf he =>
    have hfound := hle.trans hf
    exact (min_eq_left hfound).trans (min_eq_left (hfound.trans he)).symm

theorem trans {middle : Verdict} (h : Approximates threshold found middle)
    (h' : Approximates threshold middle exact) : Approximates threshold found exact := by
  cases h with
  | exact => exact h'
  | between hf hm =>
    cases h' with
    | exact => exact .between hf hm
    | between _ he => exact .between hf (hm.trans he)

theorem meet_left (h : Approximates threshold found exact) (other : Verdict) :
    Approximates threshold (found.meet other) (exact.meet other) := by
  cases h with
  | exact => exact .exact _
  | @between low high hf he =>
    cases other with
    | unknown => exact .between hf he
    | known level =>
      rcases le_total level low with hle | hle
      · have heq : min low level = min high level := by
          rw [min_eq_right hle, min_eq_right (hle.trans he)]
        change Approximates threshold (.known (min low level)) (.known (min high level))
        rw [heq]
        exact .exact _
      · exact .between (le_min hf (hf.trans hle)) (min_le_min_right level he)

theorem join_left (h : Approximates threshold found exact) (other : Verdict) :
    Approximates threshold (found.join other) (exact.join other) := by
  cases h with
  | exact => exact .exact _
  | between hf he =>
    cases other with
    | unknown => exact .between hf he
    | known level => exact .between (hf.trans (le_max_left _ level)) (max_le_max_right level he)

theorem meet (h : Approximates threshold found exact) (h' : Approximates threshold found' exact') :
    Approximates threshold (found.meet found') (exact.meet exact') := by
  have hright := h'.meet_left exact
  rw [Verdict.meet_comm found', Verdict.meet_comm exact'] at hright
  exact (h.meet_left found').trans hright

theorem join (h : Approximates threshold found exact) (h' : Approximates threshold found' exact') :
    Approximates threshold (found.join found') (exact.join exact') := by
  have hright := h'.join_left exact
  rw [Verdict.join_comm found', Verdict.join_comm exact'] at hright
  exact (h.join_left found').trans hright

theorem raise (h : Approximates threshold found exact) :
    Approximates threshold found.raise exact.raise := by
  cases h with
  | exact => exact .exact _
  | between hf he => exact .between (hf.trans (le_max_right _ _)) (max_le_max_left _ he)

/-- The lowest level ends a search for the least: nothing that follows can change it. -/
theorem meet_of_mutable (h : Approximates threshold (.known .mutable) exact) (other : Verdict) :
    Approximates threshold (.known .mutable) (exact.meet other) := by
  have hother := h.meet_left other
  have heq : (Verdict.known .mutable).meet other = .known .mutable := by
    cases other with
    | unknown => rfl
    | known level => exact congrArg _ (min_eq_left (Level.mutable_le level))
  rwa [heq] at hother

/-- A bound that starts at the threshold, and the same bound without a threshold. -/
theorem clamp (threshold lower : Level) (bound : Verdict) :
    Approximates threshold (.known (max lower (threshold.cap bound)))
      (.known (max lower (Level.cap .immutable bound))) := by
  have htop : ∀ level, min Level.immutable level = level :=
    fun level => min_eq_right (Level.le_immutable level)
  cases bound with
  | unknown =>
    exact .between (le_max_right _ _) (max_le_max_left _ (Level.le_immutable _))
  | known level =>
    simp only [Level.cap, htop]
    rcases le_total threshold level with hle | hle
    · rw [min_eq_left hle]
      exact .between (le_max_right _ _) (max_le_max_left _ hle)
    · rw [min_eq_right hle]
      exact .exact _

end Approximates

end Immutability
