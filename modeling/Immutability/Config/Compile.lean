import Immutability.Config.Record
import Immutability.Rule.Basic

/-!
# From configuration to rules

Configured rules are compiled one after another; the first that is invalid decides the error. In one rule
the target is read first, then the origin, the patterns, whether there is any name or pattern, the
provenance, and last the patterns to be ignored. Which texts are patterns is for an engine to say.
-/

set_option autoImplicit false

namespace Immutability

inductive ConfigError where
  /-- The value does not have the form of a list of rules. -/
  | unreadable
  /-- A text names no level. -/
  | invalidLevel (error : Level.ParseError)
  /-- A text is no pattern. -/
  | invalidPattern (pattern : String)
  /-- There is neither a name nor a pattern. -/
  | emptySpecifier
  /-- A package is asked for, and not named. -/
  | missingPackage
deriving DecidableEq, Repr

def ConfigError.message : ConfigError → String
  | unreadable => "not a list of rules"
  | invalidLevel error => error.message
  | invalidPattern pattern => "invalid type pattern `" ++ pattern ++ "`"
  | emptySpecifier => "type specifier has neither a name nor a pattern"
  | missingPackage => "a `package` type specifier needs a `package` field"

def compileLevel (text : String) : Except ConfigError Level :=
  (Level.parse text).mapError .invalidLevel

/-- Compiles patterns, up to the first that is none. -/
def compilePatterns (engine : Engine) (sources : List String) : Except ConfigError (List Pattern) :=
  sources.mapM fun source =>
    match engine.compile? source with
    | some pattern => .ok pattern
    | none => .error (.invalidPattern source)

namespace SpecifierRecord

def provenance (record : SpecifierRecord) : Except ConfigError (Option Provenance) :=
  match record.source, record.package with
  | none, _ => .ok none
  | some .file, _ => .ok (some (.project record.path))
  | some .library, _ => .ok (some .library)
  | some .package, some package => .ok (some (.package package))
  | some .package, none => .error .missingPackage

def compile (engine : Engine) (record : SpecifierRecord) : Except ConfigError Specifier := do
  let names := record.name.getD []
  let patterns ← compilePatterns engine (record.pattern.getD [])
  if names.isEmpty && patterns.isEmpty then throw .emptySpecifier
  let provenance ← record.provenance
  let ignorePatterns ← compilePatterns engine (record.ignorePattern.getD [])
  return { names, patterns, ignoreNames := record.ignoreName.getD [], ignorePatterns, provenance }

end SpecifierRecord

def SpecifierInput.compile (engine : Engine) : SpecifierInput → Except ConfigError Specifier
  | named name => .ok { names := [name] }
  | detailed record => record.compile engine

namespace RuleRecord

def compile (engine : Engine) (record : RuleRecord) : Except ConfigError Rule := do
  let target ← compileLevel record.target
  let origin ← record.origin.mapM compileLevel
  let specifier ← record.specifier.compile engine
  return { specifier, target := .known target, origin := origin.map .known }

/-- Compiles rules, up to the first that is invalid. -/
def compileAll (engine : Engine) (records : List RuleRecord) : Except ConfigError (List Rule) :=
  records.mapM (compile engine)

end RuleRecord

/-- The rules of a configuration. All of it is read before any rule is compiled. -/
def Rule.listOfValue (engine : Engine) (value : Value) : Except ConfigError (List Rule) :=
  match RuleRecord.listOfValue? value with
  | some records => RuleRecord.compileAll engine records
  | none => .error .unreadable

end Immutability
