set_option autoImplicit false

/-! # The tree of an XML document

An element with its attributes and what it contains, in document order. Names are local names;
namespaces play no part any more.
-/

namespace Specimen.Xml

/-- A part of an XML document. -/
inductive Node
  | element (name : String) (attributes : List (String × String)) (children : List Node)
  | text (content : String)
  | comment (content : String)
  | instruction (target content : String)

/-- The node is an element. -/
def Node.isElement : Node → Bool
  | .element _ _ _ => true
  | _ => false

end Specimen.Xml
