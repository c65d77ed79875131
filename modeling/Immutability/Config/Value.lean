import Immutability.Level

/-!
# Configuration values

The values that a configuration is written with, and how strings, lists and optional fields are read from
them. A reader answers nothing if the value has another form.
-/

set_option autoImplicit false

namespace Immutability

inductive Value where
  | null
  | bool (value : Bool)
  /-- The number `mantissa * 10 ^ -exponent`. -/
  | number (mantissa : Int) (exponent : Nat)
  | text (value : String)
  | list (items : List Value)
  | record (fields : List (String × Value))
deriving Repr, Inhabited

namespace Value

def text? : Value → Option String
  | text value => some value
  | _ => none

/-- The value of a field; a missing field counts as null. -/
def field (fields : List (String × Value)) (name : String) : Value :=
  ((fields.find? (·.1 == name)).map (·.2)).getD null

def optional? {α : Type} (read : Value → Option α) : Value → Option (Option α)
  | null => some none
  | value => (read value).map some

/-- The strings of a value that is a string or a list of strings. -/
def texts? : Value → Option (List String)
  | text value => some [value]
  | list items => items.mapM text?
  | _ => none

def level? (value : Value) : Option Level :=
  value.text?.bind fun text => (Level.parse text).toOption

end Value

end Immutability
