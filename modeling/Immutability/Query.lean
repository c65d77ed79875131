import Immutability.Machine

/-!
# Queries

A query asks for the classification of a type, possibly cut off at a threshold, or asks whether a type is
at least of some level. The narrower questions are asked with the lowest threshold that answers them.
A checker keeps its own rules and its own cache over many queries.
-/

set_option autoImplicit false

namespace Immutability

variable {σ : Type}

/-- Steps that one query may take: two to the sixtieth, more than any machine makes. -/
def stepLimit : Nat := 1152921504606846976

/-- The classification of a type. A threshold that is no level stands for the highest one. -/
def classify (host : Host σ) (rules : List Rule) (ref : TypeRef) (max : Status)
    (context : Context σ) : Except Fault (Status × Context σ) := do
  let threshold := max.level?.getD .immutable
  let query := context.journal.nextQuery
  let answer ← Machine.run host rules stepLimit ref threshold
    { context with journal := context.journal.start ref.id threshold }
  let context := answer.context
  return (answer.status,
    { context with journal := context.journal.finish query answer.status answer.cacheHit })

inductive Question where
  | isMutable
  | isReadonlyShallow
  | isReadonlyDeep
  | isImmutable
deriving DecidableEq, Repr

namespace Question

def all : List Question := [isMutable, isReadonlyShallow, isReadonlyDeep, isImmutable]

/-- The lowest threshold that answers a question. -/
def threshold : Question → Level
  | isMutable | isReadonlyShallow => .readonlyShallow
  | isReadonlyDeep => .readonlyDeep
  | isImmutable => .immutable

def holds (question : Question) (status : Status) : Bool :=
  match question with
  | isMutable => status.isMutable
  | isReadonlyShallow => status.isReadonlyShallow
  | isReadonlyDeep => status.isReadonlyDeep
  | isImmutable => status.isImmutable

def ask (host : Host σ) (rules : List Rule) (question : Question) (ref : TypeRef)
    (context : Context σ) : Except Fault (Bool × Context σ) := do
  let (status, context) ← classify host rules ref (.known question.threshold) context
  return (question.holds status, context)

end Question

/-- Rules with a cache of their own. -/
structure Checker where
  rules : List Rule
  cache : Cache := {}

instance : Inhabited Checker := ⟨{ rules := [] }⟩

end Immutability
