import Specimen.Failure

set_option autoImplicit false

/-! # Shapes

What a part of a document denotes: nothing, a leaf, a list or an object. JSON containers say
what they are and have no attributes. An XML element with attributes is an object; without, it
is a list if all its children have the same name, which holds of a single child.

The shape of a part is all that the builder asks before it looks inside (`build_by_shape` in
`Specimen.Inference.Builder`).
-/

namespace Specimen.Inference

open Specimen.Document

/-- What a container denotes. -/
inductive ContainerShape
  | null
  | list
  | object
  deriving DecidableEq

/-- The children all have the same name. -/
def sameNames (children : List (String × Element)) : Bool :=
  match children with
  | [] => true
  | (name, _) :: others => others.all fun child => child.1 == name

/-- What a container denotes. -/
def containerShape (origin : Origin) (attributes : List (String × String))
    (children : List (String × Element)) : Except Failure ContainerShape :=
  match origin with
  | .xml =>
    if !attributes.isEmpty then .ok .object
    else if children.isEmpty then .ok .null
    else if sameNames children then .ok .list
    else .ok .object
  | .jsonArray =>
    if attributes.isEmpty then .ok .list
    else .error (.unexpectedAttributes .jsonArray attributes.length)
  | .jsonObject =>
    if attributes.isEmpty then .ok .object
    else .error (.unexpectedAttributes .jsonObject attributes.length)

/-- Only a container without attributes is a list. -/
theorem attributes_eq_nil_of_list {origin : Origin} {attributes : List (String × String)}
    {children : List (String × Element)}
    (h : containerShape origin attributes children = .ok .list) : attributes = [] := by
  cases attributes with
  | nil => rfl
  | cons first others => cases origin <;> simp [containerShape] at h

/-- What a part of a document denotes. -/
inductive Shape
  | null
  | leaf (value : Scalar)
  | list (children : List (String × Element))
  | object (attributes : List (String × String)) (children : List (String × Element))

/-- The shape of a part of a document. -/
def shapeOf : Element → Except Failure Shape
  | .scalar .null => .ok .null
  | .scalar (.token t) => .ok (if t.isEmpty then .null else .leaf (.token t))
  | .scalar s => .ok (.leaf s)
  | .container origin attributes children =>
    (containerShape origin attributes children).map fun
      | .null => .null
      | .list => .list children
      | .object => .object attributes children

end Specimen.Inference
