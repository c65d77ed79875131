/-!
# Patterns

A pattern is a text that stands for a test on texts. Which texts are patterns, and what they test, is a
matter of an engine. Rules are compiled with any engine and know their patterns as tests only.
-/

set_option autoImplicit false

namespace Immutability

/-- A text with the test that it stands for. -/
structure Pattern where
  source : String
  isMatch : String → Bool
deriving Inhabited

instance : Repr Pattern where
  reprPrec pattern precedence := reprPrec pattern.source precedence

/-- Which texts are patterns, and what each of them tests. -/
structure Engine where
  test? : String → Option (String → Bool)

namespace Engine

def compile? (engine : Engine) (source : String) : Option Pattern :=
  (engine.test? source).map fun isMatch => { source, isMatch }

theorem source_of_compile? {engine : Engine} {source : String} {pattern : Pattern}
    (h : engine.compile? source = some pattern) : pattern.source = source := by
  obtain ⟨test, _, rfl⟩ := Option.map_eq_some_iff.mp h
  rfl

end Engine

end Immutability
