import Specimen.Schema.FieldType
import Specimen.Schema.Keyed

set_option autoImplicit false

/-! # Classes and their registry

A class has a qualified name and fields in order, each with a type. A registry holds classes by
their qualified names in the order in which the names were first registered; registering a class
under a name that is taken replaces the class in its place. A schema (`Schema`) is the type of a
document's root together with a registry of the classes that it leads to.
-/

namespace Specimen.Schema

/-- The fields of a class: names with their types, in order, no name twice. -/
abbrev Fields : Type := Keyed (String × FieldType) Prod.fst

/-- A class of a schema. -/
structure ClassDefinition where
  /-- The package and the simple name, joined by a point. -/
  qualifiedName : String
  /-- The fields. -/
  fields : Fields
  deriving DecidableEq

/-- The classes of a schema, no qualified name twice. -/
abbrev Registry : Type := Keyed ClassDefinition ClassDefinition.qualifiedName

/-- The names and types of a class's fields, in order: what two structurally identical classes
have in common. -/
def ClassDefinition.signature (c : ClassDefinition) : List (String × FieldType) := c.fields.toList

/-- The class with every class name in its fields' types replaced by its image under `f`. -/
def ClassDefinition.mapRefs (f : String → String) (c : ClassDefinition) : ClassDefinition :=
  { c with fields := c.fields.mapEntries (fun (name, t) => (name, t.mapRefs f)) fun _ => rfl }

/-- Two classes have the same name and the same fields, in whatever order. -/
def ClassDefinition.sameUpToOrder (c d : ClassDefinition) : Bool :=
  c.qualifiedName == d.qualifiedName && c.fields.sameEntries d.fields (· == ·)

/-- Two registries hold the same classes, whatever the order of classes and of fields. -/
def Registry.sameUpToOrder (r s : Registry) : Bool := r.sameEntries s ClassDefinition.sameUpToOrder

/-- Registers a class: it replaces the class of the same name or goes to the end. -/
def Registry.register (r : Registry) (c : ClassDefinition) : Registry := r.insert c

end Specimen.Schema

namespace Specimen

/-- The type of a document's root, and the classes it leads to. -/
structure Schema where
  /-- The type of the root. -/
  root : Schema.FieldType
  /-- The classes. -/
  registry : Schema.Registry
  deriving DecidableEq

end Specimen
