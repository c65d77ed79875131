import Immutability.Store.Basic

/-!
# Layouts

The layout of a type is its text with gaps for the types inside it: fixed text and types, one after
another. A named type shows its name and its type arguments, all others show their structure. An operand
of `|`, `&` or `[]` stands in parentheses when its own text is built with an operator.
-/

set_option autoImplicit false

namespace Immutability

inductive Piece where
  | text (text : String)
  | type (id : TypeId)
deriving DecidableEq, Repr

namespace Layout

/-- Layouts one after another with a text between them. -/
def separated (between : String) (layouts : List (List Piece)) : List Piece :=
  List.intercalate [.text between] layouts

def listed (ids : List TypeId) : List Piece := separated ", " (ids.map fun id => [.type id])

def applied (name : String) : List TypeId → List Piece
  | [] => [.text name]
  | arguments => .text (name ++ "<") :: listed arguments ++ [.text ">"]

/-- The word that marks what cannot be written. -/
def modifier (readonly : Bool) : String := if readonly then "readonly " else ""

def indexMember (key : String) (signature : IndexSignature) : List Piece :=
  [.text (modifier signature.readonly ++ "[key: " ++ key ++ "]: "), .type signature.value, .text ";"]

def propertyMember (property : Property) : List Piece :=
  [.text (modifier property.flags.readonly ++ property.name ++ ": "), .type property.type, .text ";"]

def members (object : ObjectType) : List (List Piece) :=
  (if object.callable then [[.text "(): unknown;"]] else []) ++
    (object.stringIndex.map (indexMember "string")).toList ++
    (object.numberIndex.map (indexMember "number")).toList ++
    object.properties.map propertyMember

/-- Whether an object literal is a function and nothing else. -/
def isFunction (object : ObjectType) : Bool :=
  object.callable && object.properties.isEmpty && object.stringIndex.isNone &&
    object.numberIndex.isNone

def literal (object : ObjectType) : List Piece :=
  if isFunction object then [.text "() => unknown"]
  else
    match members object with
    | [] => [.text "\x7b\x7d"]
    | members => .text "\x7b " :: separated " " members ++ [.text " \x7d"]

end Layout

namespace Store

/-- The name and arguments of the alias of a type, if the alias has a name. -/
def namedAlias? (store : Store) (id : TypeId) : Option (String × List TypeId) := do
  let found ← store.aliasOf? id
  let name ← store.symbolName? found.symbol
  return (name, found.arguments)

/-- Whether the text of a type needs parentheses as an operand. -/
def needsParentheses (store : Store) (id : TypeId) : Bool :=
  (store.aliasOf? id).isNone &&
    match store.get? id with
    | some (.union _) | some (.intersection _) | some (.conditional _) => true
    | some (.object object) =>
      object.callable && object.properties.isEmpty && object.symbol.isNone
    | _ => false

def operand (store : Store) (id : TypeId) : List Piece :=
  if store.needsParentheses id then [.text "(", .type id, .text ")"] else [.type id]

def objectLayout (store : Store) (object : ObjectType) : List Piece :=
  let name := object.symbol.bind store.symbolName?
  match object.kind with
  | .array =>
    .text (Layout.modifier (name == some "ReadonlyArray")) ::
      store.operand (object.typeArguments.head?.getD Intrinsic.unknown.id) ++ [.text "[]"]
  | .tuple readonly =>
    .text (Layout.modifier readonly ++ "[") :: Layout.listed object.typeArguments ++ [.text "]"]
  | .plain =>
    match name with
    | some name => Layout.applied name object.typeArguments
    | none => Layout.literal object

def layout (store : Store) (id : TypeId) : List Piece :=
  match store.namedAlias? id with
  | some (name, arguments) => Layout.applied name arguments
  | none =>
    match store.get? id with
    | none | some .pending | some .error => [.text "error"]
    | some (.intrinsic kind) => [.text kind.name]
    | some (.literal text) => [.text text]
    | some (.typeParameter symbol) => [.text ((store.symbolName? symbol).getD "T")]
    | some (.union members) => Layout.separated " | " (members.map store.operand)
    | some (.intersection members) => Layout.separated " & " (members.map store.operand)
    | some (.conditional type) =>
      [.type type.check, .text " extends ", .type type.extended, .text " ? ", .type type.whenTrue.id,
        .text " : ", .type type.whenFalse.id]
    | some (.object object) => store.objectLayout object

end Store

end Immutability
