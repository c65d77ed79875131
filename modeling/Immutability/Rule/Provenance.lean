import Immutability.Path
import Immutability.Program
import Immutability.Text.Lower

/-!
# Provenance

Where a type has to be declared for a rule to apply: in the user's project, in the standard library, or
in an installed package. File names are compared in lower case.
-/

set_option autoImplicit false

namespace Immutability

/-- Where a type has to be declared. -/
inductive Provenance where
  /-- In the user's project; with a path, in exactly the file at that path from the project's root. -/
  | project (path : Option String)
  /-- In the standard library, or nowhere, as the intrinsic types are. -/
  | library
  /-- In an installed package. -/
  | package (name : String)
deriving DecidableEq, Repr

namespace Provenance

/-- Whether a type with these declarations counts as one of the standard library. -/
def inLibrary (files : List SourceFile) : Bool := files.isEmpty || files.any (·.defaultLibrary)

/-- Name under which the types of a package are published: the scope of a scoped package is joined to its
name by two underscores. -/
def typesPackage (package : String) : String :=
  match package.toList with
  | '@' :: rest =>
    match rest.span (· != '/') with
    | (scope, _ :: name) => String.ofList (scope ++ '_' :: '_' :: name)
    | _ => package
  | _ => package

def inPackage (package : String) (files : List SourceFile) : Bool :=
  files.any fun file =>
    file.external && file.package.any fun name =>
      Text.contains name package || Text.contains name (typesPackage package)

def inProject (program : Program) (files : List SourceFile) : Bool :=
  let root := Text.lower program.currentDirectory
  let typeRoots := program.typeRoots.map Text.lower
  files.any fun file =>
    !file.external &&
      let name := Text.lower file.name
      Text.beginsWith name root && !typeRoots.any (Text.beginsWith name ·)

/-- Whether one of the declarations is in the file at a path from the project's root. -/
def inFile (program : Program) (path : String) (files : List SourceFile) : Bool :=
  let absolute := Text.lower (Path.join program.currentDirectory path)
  files.any fun file => Text.lower file.name == absolute

def admits (program : Program) (files : List SourceFile) : Provenance → Bool
  | project none => inProject program files
  | project (some path) => inFile program path files
  | library => inLibrary files
  | package name => inPackage name files

end Provenance

end Immutability
