import Specimen.Inference.Name
import Specimen.Schema.Registry

set_option autoImplicit false

/-! # Class models

A class of a schema as a class with accessors: each field has a getter, named `is…` if the field
holds truth values and `get…` otherwise, and a setter `set…` whose parameter is named like the
field.
-/

namespace Specimen.Java

open Specimen.Inference Specimen.Schema

/-- A field with its accessors. -/
structure FieldModel where
  /-- The name of the field. -/
  name : String
  /-- The type of the field. -/
  type : FieldType
  /-- The name of the getter. -/
  getter : String
  /-- The type that the getter returns. -/
  returns : FieldType
  /-- The name of the setter. -/
  setter : String
  /-- The name of the setter's parameter. -/
  parameter : String
  /-- The type of the setter's parameter. -/
  parameterType : FieldType
  deriving DecidableEq

/-- A class with its fields. -/
structure ClassModel where
  /-- The package and the simple name, joined by a point. -/
  qualifiedName : String
  /-- The package. -/
  package : String
  /-- The simple name. -/
  simpleName : String
  /-- The fields. -/
  fields : List FieldModel
  deriving DecidableEq

/-- The model of a field; a field without a name has no accessors. -/
def FieldModel.ofField (name : String) (type : FieldType) : Except Failure FieldModel :=
  (capitalize name).map fun capitalized =>
    { name := name
      type := type
      getter := (if type.isBoolean then "is" else "get") ++ capitalized
      returns := type
      setter := "set" ++ capitalized
      parameter := name
      parameterType := type }

/-- The model of a class. -/
def ClassModel.ofClass (c : ClassDefinition) : Except Failure ClassModel :=
  (c.fields.toList.mapM fun (name, type) => FieldModel.ofField name type).map fun fields =>
    let (package, simpleName) := splitQualified c.qualifiedName
    ⟨c.qualifiedName, package, simpleName, fields⟩

/-- The models of a registry's classes. -/
def ClassModel.ofRegistry (r : Registry) : Except Failure (List ClassModel) :=
  r.toList.mapM ClassModel.ofClass

end Specimen.Java
