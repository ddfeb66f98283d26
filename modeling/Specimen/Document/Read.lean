import Specimen.Document.Format
import Specimen.Document.OfJson
import Specimen.Document.OfXml
import Specimen.Failure
import Specimen.Json.Reader
import Specimen.Xml.Assembly

set_option autoImplicit false

/-! # Reading documents

The document tree of a text in one of the document formats.
-/

namespace Specimen.Document

/-- The JSON value of a text. -/
def readJson (text : String) : Except Failure Json.Value := (Json.read text).mapError .json

/-- The document tree of an XML text. -/
def readXml (text : String) : Except Failure Element :=
  ((Xml.read text).map Element.ofXml).mapError .xml

/-- The document tree of a text. -/
def read (text : String) : Format → Except Failure Element
  | .json => (readJson text).map Element.ofJson
  | .xml => readXml text

end Specimen.Document
