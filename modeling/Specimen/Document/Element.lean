import Specimen.Number.Binary64

set_option autoImplicit false

/-! # Document trees

The tree of a sample document, the same for every document format. A container keeps its named
parts in document order, and names may repeat; it also remembers which kind of container it was
in the document, because a JSON array is a list by its kind but an XML element only by the names
of its children.
-/

namespace Specimen.Document

open Specimen.Number

/-- A leaf of a document. -/
inductive Scalar
  | null
  | bool (value : Bool)
  | number (value : Binary64)
  /-- A string that the document marks as such. -/
  | text (value : String)
  /-- Character data, whose content says what it is. -/
  | token (value : String)
  deriving DecidableEq

/-- What a container was in its document. -/
inductive Origin
  | jsonObject
  | jsonArray
  | xml
  deriving DecidableEq

/-- A part of a document. -/
inductive Element
  /-- A leaf. -/
  | scalar (value : Scalar)
  /-- A container with its attributes and its children. -/
  | container (origin : Origin) (attributes : List (String × String))
      (children : List (String × Element))

/-- How the kind of a container is named. -/
def Origin.name : Origin → String
  | .jsonObject => "JsonObject"
  | .jsonArray => "JsonArray"
  | .xml => "Xml"

end Specimen.Document
