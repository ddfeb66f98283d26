import Specimen.Document.Element
import Specimen.Json.Value

set_option autoImplicit false

/-! # Document trees of JSON values

A JSON value as a document tree: the members of an object keep their names and their order, and
the elements of an array are named by their indices.
-/

namespace Specimen.Document

open Specimen.Json

/-- The name of the array element with index `i`. -/
def indexName (i : Nat) : String := String.ofList (Nat.toDigits 10 i)

mutual

/-- The document tree of a JSON value. -/
def Element.ofJson : Value → Element
  | .null => .scalar .null
  | .bool b => .scalar (.bool b)
  | .number n => .scalar (.number n.toBinary64)
  | .text t => .scalar (.text t)
  | .array items => .container .jsonArray [] (Element.ofItems 0 items)
  | .object members => .container .jsonObject [] (Element.ofMembers members)

/-- The elements of an array from the one with index `index` on. -/
def Element.ofItems (index : Nat) : List Value → List (String × Element)
  | [] => []
  | v :: vs => (indexName index, Element.ofJson v) :: Element.ofItems (index + 1) vs

/-- The members of an object. -/
def Element.ofMembers : List (String × Value) → List (String × Element)
  | [] => []
  | (name, v) :: ms => (name, Element.ofJson v) :: Element.ofMembers ms

end

end Specimen.Document
