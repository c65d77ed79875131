import Immutability.Regex.Automaton
import Immutability.Regex.Parser
import Immutability.Regex.Size
import Immutability.Regex.TextChoice
import Immutability.Rule.Pattern

/-!
# Regular expressions as patterns

The engine that reads a pattern as a regular expression. A text passes if some part of it matches.
-/

set_option autoImplicit false

namespace Immutability

/-- The automaton of an expression that is a choice of texts or small enough. A choice of texts may be written in
any size. -/
def Regex.automaton? (regex : Regex) : Option Automaton :=
  match regex.texts? with
  | some texts => some (Regex.ofBranches (texts.map Regex.literal)).automaton
  | none => if regex.fits then some regex.automaton else none

def Engine.regex : Engine where
  test? source := ((RegexText.read? source).bind Regex.automaton?).map Automaton.isMatch

end Immutability
