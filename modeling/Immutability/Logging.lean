import Immutability.Text.Blank
import Immutability.Text.Lower

/-!
# Logging

The formats of log output, and the switching on of a log from the environment. A log is switched on once,
and only if one of two variables of the environment asks for it.
-/

set_option autoImplicit false

namespace Immutability

inductive LogFormat where
  | text
  | tree
  | json
deriving DecidableEq, Repr

namespace LogFormat

def name : LogFormat → String
  | text => "text"
  | tree => "tree"
  | json => "json"

/-- The format that a text asks for; plain text unless it names another. -/
def parse (value : String) : LogFormat :=
  match Text.lower (Text.trim value) with
  | "tree" => tree
  | "json" => json
  | _ => text

end LogFormat

/-- Whether a log was switched on. -/
structure Logging where
  installed : Bool := false
deriving DecidableEq, Repr, Inhabited

namespace Logging

/-- The variables of the environment that ask for a log. -/
def switches : List String := ["IMMUTYPE_LOG", "RUST_LOG"]

/-- Switches the log on if the environment asks for it; says whether this call did so. -/
def install (environment : List (String × String)) (logging : Logging) : Bool × Logging :=
  let asked := environment.any (switches.contains ·.1)
  if asked && !logging.installed then (true, { installed := true }) else (false, logging)

/-- What the first calls that switch the log on say. -/
def installs (environment : List (String × String)) : Nat → Logging → List Bool
  | 0, _ => []
  | calls + 1, logging =>
    let (done, logging) := logging.install environment
    done :: installs environment calls logging

end Logging

end Immutability
