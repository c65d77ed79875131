/-!
# The program around a type

Facts about source files and about the program as a whole that rules ask for, and the textual forms
of a type that rules look at.
-/

set_option autoImplicit false

namespace Immutability

structure SourceFile where
  name : String
  /-- Part of the standard library. -/
  defaultLibrary : Bool := false
  /-- Loaded from an external library. -/
  external : Bool := false
  /-- The package that the file belongs to, when it came from one. -/
  package : Option String := none
deriving DecidableEq, Repr, Inhabited

namespace SourceFile

def project (name : String) : SourceFile := { name }

/-- A declaration file of the standard library. -/
def library (name : String) : SourceFile := { name, defaultLibrary := true }

/-- A declaration file of an installed package. -/
def ofPackage (name package : String) : SourceFile :=
  { name, external := true, package := some package }

end SourceFile

/-- The directories of a program. -/
structure Program where
  /-- Root directory of the user's project. -/
  currentDirectory : String
  /-- Directories holding ambient type packages. -/
  typeRoots : List String := []
deriving DecidableEq, Repr, Inhabited

/-- The ways in which a type can be spelled. -/
structure TypeName where
  /-- Name of an intrinsic type or of the declaring symbol; anonymous types have none. -/
  name : Option String := none
  nameWithArguments : Option String := none
  aliasName : Option String := none
  aliasWithArguments : Option String := none
  /-- The rendering of the type itself. -/
  evaluated : String
  /-- The source text, when the type was written out. -/
  written : Option String := none
deriving DecidableEq, Repr, Inhabited

/-- How a type reads when it is an argument of another. -/
def TypeName.asArgument (typeName : TypeName) : String :=
  (typeName.nameWithArguments <|> typeName.name).getD typeName.evaluated

end Immutability
