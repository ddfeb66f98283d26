import Specimen.Json.Writer
import Specimen.Schema.Registry

set_option autoImplicit false

/-! # Schemas as JSON

A type without parts is written as its name, a list or a reference as an object with the kind as
its only key. A registry is an object with the classes by their qualified names, and a class is
an object with its name and its fields.
-/

namespace Specimen.Schema

open Specimen.Json

/-- The JSON value of a type. -/
def FieldType.toJson : FieldType → Value
  | .null => .text "Null"
  | .boolean => .text "Boolean"
  | .integer => .text "Integer"
  | .long => .text "Long"
  | .double => .text "Double"
  | .string => .text "String"
  | .boxedInteger => .text "BoxedInteger"
  | .boxedLong => .text "BoxedLong"
  | .boxedDouble => .text "BoxedDouble"
  | .listOf item => .object [("ListOf", item.toJson)]
  | .objectRef name => .object [("ObjectRef", .text name)]

/-- The JSON value of a class. -/
def ClassDefinition.toJson (c : ClassDefinition) : Value :=
  .object [("qualified_name", .text c.qualifiedName),
    ("fields", .object (c.fields.toList.map fun (name, t) => (name, t.toJson)))]

/-- The JSON value of a registry. -/
def Registry.toJson (r : Registry) : Value :=
  .object (r.toList.map fun c => (c.qualifiedName, c.toJson))

/-- The members of the JSON object of a schema. -/
def members (s : Schema) : List (String × Value) :=
  [("root", s.root.toJson), ("classes", Registry.toJson s.registry)]

/-- The JSON value of a schema. -/
def toJson (s : Schema) : Value := .object s.members

end Specimen.Schema
