import Specimen.Inference.Leaf
import Specimen.Inference.Name
import Specimen.Inference.Shape
import Specimen.Schema.Registry

set_option autoImplicit false

/-! # Building classes

`build` walks through a document tree depth first, gives the type of its root and registers a
class for each object on the way, inner ones first. Of a list only the first element counts. A
list's elements are named after their tag in XML and after the list itself elsewhere; the object
in a field is named after the field.

A builder is a function of the registry that holds what was registered before. A failure leaves
the classes registered before it in the registry.

What is built of a part is told by its shape (`build_by_shape`).
-/

namespace Specimen.Inference

open Specimen.Document Specimen.Schema

/-- A computation that reads and extends a registry and may fail, keeping the registry. -/
abbrev Builder (α : Type) : Type := Registry → Except Failure α × Registry

namespace Builder

variable {α β : Type}

/-- The builder that registers nothing. -/
def done (a : α) : Builder α := fun r => (.ok a, r)

/-- The builder that fails. -/
def fail (f : Failure) : Builder α := fun r => (.error f, r)

/-- The builder that registers nothing and gives, or fails with, a result. -/
def ofExcept (result : Except Failure α) : Builder α := fun r => (result, r)

/-- One builder after another; a failure ends both. -/
def andThen (first : Builder α) (next : α → Builder β) : Builder β := fun r =>
  match first r with
  | (.ok a, s) => next a s
  | (.error f, s) => (.error f, s)

instance : Monad Builder where
  pure := done
  bind := andThen

end Builder

/-- The name of the class of a list's elements: the tag of the first one in XML, otherwise the
singular of the list's own name. -/
def elementName (origin : Origin) (firstName listName : String) : String :=
  match origin with
  | .xml => firstName
  | .jsonArray => singular listName
  | .jsonObject => singular listName

/-- The fields of an object's attributes. -/
def attributeFields (attributes : List (String × String)) : Fields :=
  Keyed.ofList (attributes.map fun (name, value) => (name, attributeType value))

/-- Registers the class of an object. -/
def registerClass (package name : String) (fields : Fields) : Builder FieldType := fun r =>
  let qualifiedName := qualify package name
  (.ok (.objectRef qualifiedName), r.register ⟨qualifiedName, fields⟩)

mutual

/-- The type of a part of a document whose class, if it needs one, is to be called `name`. -/
def build (typing : StringTyping) (package : String) (name : String) :
    Element → Builder FieldType
  | .scalar s => Builder.done (leafType typing s)
  | .container origin attributes children =>
    (Builder.ofExcept (containerShape origin attributes children)).andThen fun
      | .null => Builder.done .null
      | .list => buildFirst typing package origin name children
      | .object =>
        (buildFields typing package (attributeFields attributes) children).andThen
          (registerClass package name)

/-- The type of a list, from its first element. -/
def buildFirst (typing : StringTyping) (package : String) (origin : Origin) (name : String) :
    List (String × Element) → Builder FieldType
  | [] => Builder.done (.listOf .null)
  | (tag, first) :: _ =>
    (build typing package (elementName origin tag name) first).andThen fun t =>
      Builder.done (.listOf t.boxed)

/-- The fields of an object: those that are there, and one for each child. -/
def buildFields (typing : StringTyping) (package : String) (fields : Fields) :
    List (String × Element) → Builder Fields
  | [] => Builder.done fields
  | (field, child) :: others =>
    (Builder.ofExcept (capitalize field)).andThen fun name =>
      (build typing package name child).andThen fun t =>
        buildFields typing package (fields.insert (field, t)) others

end

/-! ## Building by shapes -/

/-- **A part of a document is built by its shape.** A part that has none fails, and nothing is
registered. Only leaves denote leaves, and only containers lists and objects: a leaf gets the type
of its value, a list, which has no attributes, its type from its first element, and an object
refers to the class of its fields, which is registered behind those of its parts. -/
theorem build_by_shape (typing : StringTyping) (package name : String) (element : Element) :
    match shapeOf element with
    | .error failure => build typing package name element = Builder.fail failure
    | .ok .null => build typing package name element = Builder.done .null
    | .ok (.leaf value) =>
      element = .scalar value ∧
        build typing package name element = Builder.done (leafType typing value)
    | .ok (.list children) =>
      ∃ origin, element = .container origin [] children ∧
        build typing package name element = buildFirst typing package origin name children
    | .ok (.object attributes children) =>
      ∃ origin, element = .container origin attributes children ∧
        build typing package name element =
          (buildFields typing package (attributeFields attributes) children).andThen
            (registerClass package name) := by
  cases element with
  | scalar value =>
    cases value with
    | null => rfl
    | bool b => exact ⟨rfl, rfl⟩
    | number x => exact ⟨rfl, rfl⟩
    | text t => exact ⟨rfl, rfl⟩
    | token t =>
      -- empty character data is a leaf of the tree that denotes nothing
      by_cases hempty : t.isEmpty
      · simp [shapeOf, hempty, build, leafType, tokenType]
      · simp [shapeOf, hempty, build]
  | container origin attributes children =>
    simp only [shapeOf, build]
    cases hshape : containerShape origin attributes children with
    | error failure => rfl
    | ok shape =>
      cases shape with
      | null => rfl
      | list =>
        obtain rfl := attributes_eq_nil_of_list hshape
        exact ⟨origin, rfl, rfl⟩
      | object => exact ⟨origin, rfl, rfl⟩

end Specimen.Inference
