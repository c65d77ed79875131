import Immutability.Config.Value

/-!
# Configured rules

The records in which rules are configured. A rule has a specifier, a target and perhaps an origin; the
levels are texts that are read later. A specifier is a name alone, or a record of names, patterns and a
provenance. Records are written with named fields or as the list of their fields in order. A specifier
has no other fields; other fields of a rule are ignored.
-/

set_option autoImplicit false

namespace Immutability

inductive SourceKind where
  | file
  | library
  | package
deriving DecidableEq, Repr

/-- A specifier in its long form. -/
structure SpecifierRecord where
  name : Option (List String) := none
  pattern : Option (List String) := none
  ignoreName : Option (List String) := none
  ignorePattern : Option (List String) := none
  source : Option SourceKind := none
  path : Option String := none
  package : Option String := none
deriving DecidableEq, Repr, Inhabited

inductive SpecifierInput where
  | named (name : String)
  | detailed (record : SpecifierRecord)
deriving DecidableEq, Repr

structure RuleRecord where
  specifier : SpecifierInput
  target : String
  origin : Option String := none
deriving DecidableEq, Repr

namespace SourceKind

def ofName? : String → Option SourceKind
  | "file" => some file
  | "lib" => some library
  | "package" => some package
  | _ => none

/-- Reads a kind: its name, or a record with its name as the only field, which is null. -/
def ofValue? : Value → Option SourceKind
  | .text name => ofName? name
  | .record [(name, .null)] => ofName? name
  | _ => none

end SourceKind

namespace SpecifierRecord

def fieldNames : List String :=
  ["name", "pattern", "ignoreName", "ignorePattern", "from", "path", "package"]

def ofFields? : List Value → Option SpecifierRecord
  | [name, pattern, ignoreName, ignorePattern, source, path, package] => do
    return {
      name := ← name.optional? Value.texts?
      pattern := ← pattern.optional? Value.texts?
      ignoreName := ← ignoreName.optional? Value.texts?
      ignorePattern := ← ignorePattern.optional? Value.texts?
      source := ← source.optional? SourceKind.ofValue?
      path := ← path.optional? Value.text?
      package := ← package.optional? Value.text? }
  | _ => none

def ofValue? : Value → Option SpecifierRecord
  | .list items => ofFields? items
  | .record fields =>
    if fields.all (fieldNames.contains ·.1) then ofFields? (fieldNames.map (Value.field fields))
    else none
  | _ => none

end SpecifierRecord

/-- Reads a specifier in either form. -/
def SpecifierInput.ofValue? : Value → Option SpecifierInput
  | .text name => some (named name)
  | value => (SpecifierRecord.ofValue? value).map detailed

namespace RuleRecord

def ofFields? (specifier target origin : Value) : Option RuleRecord := do
  return {
    specifier := ← SpecifierInput.ofValue? specifier
    target := ← target.text?
    origin := ← origin.optional? Value.text? }

def ofValue? : Value → Option RuleRecord
  | .list [specifier, target] => ofFields? specifier target .null
  | .list [specifier, target, origin] => ofFields? specifier target origin
  | .record fields =>
    ofFields? (.field fields "type") (.field fields "to") (.field fields "from")
  | _ => none

def listOfValue? : Value → Option (List RuleRecord)
  | .list items => items.mapM ofValue?
  | _ => none

end RuleRecord

end Immutability
