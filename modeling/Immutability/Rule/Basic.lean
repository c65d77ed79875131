import Immutability.Host
import Immutability.Rule.Pattern
import Immutability.Rule.Provenance
import Immutability.Verdict

/-!
# Rules

A rule forces the classification of the types that its specifier picks. Rules stand in a list and the first
one that picks a type decides. A rule without an origin applies always; a rule with one replaces a
classification only if it lies between the origin and the target.
-/

set_option autoImplicit false

namespace Immutability

/-- Which types a rule picks: those with one of the names or patterns, unless the ignore lists name them,
and declared where the provenance says. -/
structure Specifier where
  names : List String := []
  patterns : List Pattern := []
  ignoreNames : List String := []
  ignorePatterns : List Pattern := []
  provenance : Option Provenance := none
deriving Repr, Inhabited

/-- What a rule sees of a type. -/
structure Subject where
  typeName : TypeName
  files : List SourceFile
  program : Program
deriving Repr

def Host.subject {σ : Type} (host : Host σ) (state : σ) (ref : TypeRef) : Subject where
  typeName := host.typeName state ref
  files := host.declarationFiles state ref.id
  program := host.program state

namespace Specifier

/-- Whether one of the forms of a type is listed or matches a pattern. Names are compared with the name, the
alias and the rendering; patterns with every form, the name with its arguments if it has any. -/
def nameMatches (typeName : TypeName) (names : List String) (patterns : List Pattern) : Bool :=
  let listed := fun text => names.contains text
  let matched := fun text => patterns.any (·.isMatch text)
  typeName.name.any (fun name => listed name || matched (typeName.nameWithArguments.getD name)) ||
    typeName.aliasName.any (fun name => listed name || matched name) ||
    typeName.aliasWithArguments.any matched ||
    listed typeName.evaluated || matched typeName.evaluated ||
    typeName.written.any matched

def ignores (specifier : Specifier) (typeName : TypeName) : Bool :=
  nameMatches typeName specifier.ignoreNames specifier.ignorePatterns

def picks (specifier : Specifier) (subject : Subject) : Bool :=
  nameMatches subject.typeName specifier.names specifier.patterns &&
    !specifier.ignores subject.typeName &&
    specifier.provenance.all (·.admits subject.program subject.files)

end Specifier

/-- A rule forcing the classification of the types that it picks. -/
structure Rule where
  specifier : Specifier
  /-- What the classification becomes. -/
  target : Status
  /-- Where a classification has to lie, between this and the target, to be replaced. -/
  origin : Option Status := none
deriving Repr, Inhabited

namespace Rule

def find? (rules : List Rule) (subject : Subject) : Option Rule :=
  rules.find? (·.specifier.picks subject)

/-- Rules for types of the standard library whose values can change though no field of theirs can be
written. -/
def defaults : List Rule :=
  ["Map", "Set", "Date", "URL", "URLSearchParams"].map fun name =>
    { specifier := { names := [name], provenance := some .library }, target := .known .mutable }

end Rule

end Immutability
