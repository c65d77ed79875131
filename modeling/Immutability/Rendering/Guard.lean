import Immutability.Handle
import Immutability.Limits

/-!
# Guards

A guard watches over a descent into types. It refuses a type that is open already, a type that lies too
deep, and every type once the budget of steps is spent. Each type that was let in has to be left again.
-/

set_option autoImplicit false

namespace Immutability

/-- State of a descent into types. -/
structure Guard where
  /-- The types on the current path, innermost first. -/
  opened : List TypeId := []
  /-- Length of the current path. -/
  depth : Nat := 0
  /-- How many times a type was to be entered. -/
  steps : Nat := 0
  /-- How many times a type was left that was not open. -/
  unmatched : Nat := 0
deriving DecidableEq, Repr, Inhabited

namespace Guard

/-- Whether a type may be entered, the step of asking included. -/
def admits (guard : Guard) (id : TypeId) : Bool :=
  guard.steps < Limits.typeNameSteps && guard.depth < Limits.typeNameDepth &&
    guard.opened.length < Limits.typeNameOpen && !guard.opened.contains id

/-- Tries to enter a type; says whether it was let in. -/
def enter (guard : Guard) (id : TypeId) : Bool × Guard :=
  let asked := { guard with steps := guard.steps + 1 }
  if guard.admits id then
    (true, { asked with opened := id :: guard.opened, depth := guard.depth + 1 })
  else (false, asked)

def leave (guard : Guard) (id : TypeId) : Guard :=
  { guard with
    opened := guard.opened.erase id
    depth := guard.depth - 1
    unmatched := if guard.opened.contains id then guard.unmatched else guard.unmatched + 1 }

@[simp] theorem steps_enter (guard : Guard) (id : TypeId) :
    (guard.enter id).2.steps = guard.steps + 1 := by
  simp only [enter]; split <;> rfl

end Guard

end Immutability
