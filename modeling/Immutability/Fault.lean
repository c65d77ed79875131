import Immutability.Handle

/-!
# Faults

A fault is a broken promise between the parts of a classification: it stops the request in which it
occurs and changes nothing.
-/

set_option autoImplicit false

namespace Immutability

/-- Why a request was stopped. -/
inductive Fault where
  /-- A lattice operation was given a value that is still being calculated. -/
  | calculatingOperand
  /-- A request began at a type that is marked as being calculated. -/
  | stillCalculating (id : TypeId)
  /-- A request came to its end without a settled value. -/
  | endedCalculating (id : TypeId)
  /-- A request took more steps than it was allowed. -/
  | stepsSpent
deriving DecidableEq, Repr

def Fault.message : Fault → String
  | calculatingOperand => "Immutability::Calculating must not reach the lattice"
  | stillCalculating id =>
    "type TypeId(" ++ toString id.index ++ ") is still being calculated outside of any classification"
  | endedCalculating id =>
    "classification of type TypeId(" ++ toString id.index ++ ") ended while still calculating"
  | stepsSpent => "classification took too many steps"

end Immutability
