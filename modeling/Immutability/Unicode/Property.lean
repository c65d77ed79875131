import Immutability.Unicode.Age
import Immutability.Unicode.Break

/-!
# Properties by name

A property, or a property with a value, names a set of characters. Names are compared in a loose form that
ignores case, blanks, hyphens and low lines.
-/

set_option autoImplicit false

namespace Immutability.Unicode

/-- The name without two letters in front that may stand there without a meaning. -/
def dropIs (name : List Char) : Bool × List Char :=
  match name with
  | c :: d :: rest => if c.toLower == 'i' && d.toLower == 's' then (true, rest) else (false, name)
  | name => (false, name)

/-- The loose form of a name, in ASCII. A single letter that would be mistaken for another name keeps what
stands before it. -/
def looseName (name : List Char) : String :=
  let (dropped, rest) := dropIs name
  let kept := rest.filter fun c => c.toNat < 0x80 && c != ' ' && c != '_' && c != '-'
  let loose := String.ofList (kept.map Char.toLower)
  if dropped && loose == "c" then "isc" else loose

/-- The characters of a property, a category or a script of this name. -/
def named? (name : List Char) : Option CharSet :=
  let name := looseName name
  (binary? name).or ((category? name).or (script? name))

def valued? (property value : List Char) : Option CharSet :=
  let value := looseName value
  match looseName property with
  | "gc" | "generalcategory" => category? value
  | "sc" | "script" => script? value
  | "scx" | "scriptextensions" => scriptExtension? value
  | "age" => age? value
  | "gcb" | "graphemeclusterbreak" => clusterBreak? value
  | "wb" | "wordbreak" => wordBreak? value
  | "sb" | "sentencebreak" => sentenceBreak? value
  | _ => none

end Immutability.Unicode
