/-!
# Limits

Bounds on the writing of types, and sizes that containers start with.
-/

set_option autoImplicit false

namespace Immutability.Limits

/-- How deep types may nest when one is written as text. -/
def typeNameDepth : Nat := 8

/-- How many types may be entered when one is written as text. -/
def typeNameSteps : Nat := 10000

/-- How many types may be open at once when one is written as text. -/
def typeNameOpen : Nat := 1000

/-- Expected number of frames of a classification. -/
def worklist : Nat := 32

/-- Expected length of a list of types. -/
def typeList : Nat := 4

end Immutability.Limits
