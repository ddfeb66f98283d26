import Specimen.Document.Element
import Specimen.Xml.Node

set_option autoImplicit false

/-! # Document trees of XML documents

An XML element as a document tree. A leaf, which has no attributes and no element inside it, is
its text; any other element is a container, and the text next to its children is dropped.
Comments and processing instructions do not count.
-/

namespace Specimen.Document

open Specimen.Xml

/-- The text directly inside an element, in document order. -/
def directText : List Node → String
  | [] => ""
  | .text content :: ns => content ++ directText ns
  | _ :: ns => directText ns

mutual

/-- The document tree of an XML element. -/
def Element.ofXml : Node → Element
  | .element _ attributes nodes =>
    let children := Element.ofNodes nodes
    if attributes.isEmpty && children.isEmpty then .scalar (.token (directText nodes))
    else .container .xml attributes children
  | .text content => .scalar (.token content)
  | .comment _ => .scalar (.token "")
  | .instruction _ _ => .scalar (.token "")

/-- The elements among some nodes, by their names. -/
def Element.ofNodes : List Node → List (String × Element)
  | [] => []
  | .element name attributes nodes :: ns =>
    (name, Element.ofXml (.element name attributes nodes)) :: Element.ofNodes ns
  | .text _ :: ns => Element.ofNodes ns
  | .comment _ :: ns => Element.ofNodes ns
  | .instruction _ _ :: ns => Element.ofNodes ns

end

end Specimen.Document
