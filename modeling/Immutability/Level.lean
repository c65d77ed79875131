import Immutability.Text.Blank
import Immutability.Text.Lower

/-!
# Levels of immutability

Four levels, ordered from the least to the most immutable. The order is that of their ranks, so it is
total, and `min` and `max` are those of the order. A level is read from text by its name, up to
white space around it and the case of ASCII letters.
-/

set_option autoImplicit false

namespace Immutability

/-- How immutable a type is. -/
inductive Level where
  /-- Something reachable through the type can be written. -/
  | mutable
  /-- The type's own fields cannot be written, but nested values may be. -/
  | readonlyShallow
  /-- Nothing reachable can be written, but methods may observe hidden state. -/
  | readonlyDeep
  /-- Nothing reachable can be written. -/
  | immutable
deriving DecidableEq, Repr, Inhabited

namespace Level

def rank : Level → Nat
  | mutable => 1
  | readonlyShallow => 2
  | readonlyDeep => 3
  | immutable => 4

instance : LE Level := ⟨fun a b => a.rank ≤ b.rank⟩

instance : DecidableLE Level := fun a b => inferInstanceAs (Decidable (a.rank ≤ b.rank))

instance : Min Level := minOfLe

instance : Max Level := maxOfLe

/-- The levels, least immutable first. -/
def all : List Level := [mutable, readonlyShallow, readonlyDeep, immutable]

def name : Level → String
  | mutable => "Mutable"
  | readonlyShallow => "ReadonlyShallow"
  | readonlyDeep => "ReadonlyDeep"
  | immutable => "Immutable"

theorem rank_injective {a b : Level} (h : a.rank = b.rank) : a = b := by
  cases a <;> cases b <;> simp_all [rank]

theorem le_refl (a : Level) : a ≤ a := Nat.le_refl a.rank

theorem le_trans {a b c : Level} (hab : a ≤ b) (hbc : b ≤ c) : a ≤ c := Nat.le_trans hab hbc

theorem le_antisymm {a b : Level} (hab : a ≤ b) (hba : b ≤ a) : a = b :=
  rank_injective (Nat.le_antisymm hab hba)

theorem le_total (a b : Level) : a ≤ b ∨ b ≤ a := Nat.le_total a.rank b.rank

theorem mutable_le (a : Level) : mutable ≤ a := by cases a <;> decide

theorem le_immutable (a : Level) : a ≤ immutable := by cases a <;> decide

theorem min_comm (a b : Level) : min a b = min b a := by cases a <;> cases b <;> rfl

theorem min_assoc (a b c : Level) : min (min a b) c = min a (min b c) := by
  cases a <;> cases b <;> cases c <;> rfl

theorem max_comm (a b : Level) : max a b = max b a := by cases a <;> cases b <;> rfl

theorem max_assoc (a b c : Level) : max (max a b) c = max a (max b c) := by
  cases a <;> cases b <;> cases c <;> rfl

/-- A text that names no level. -/
structure ParseError where
  text : String
deriving DecidableEq, Repr

def ParseError.message (error : ParseError) : String :=
  "`" ++ error.text ++ "` is not an immutability level " ++
    "(expected Mutable, ReadonlyShallow, ReadonlyDeep or Immutable)"

def parse (text : String) : Except ParseError Level :=
  match all.find? fun level => Text.sameIgnoringAsciiCase level.name (Text.trim text) with
  | some level => .ok level
  | none => .error ⟨text⟩

end Level

end Immutability
