import Specimen.Text.Literal
import Specimen.Text.Position

set_option autoImplicit false

/-! # Faults of XML text

What can be wrong with an XML text, and where. A place is the index of a character in the text
of the whole document; a fault that concerns the document as a whole has none.
-/

namespace Specimen.Xml

open Specimen.Text

/-- What is wrong with an XML text. -/
inductive Cause
  | noRoot
  | unclosedRoot
  | endOfText
  | unknownToken
  | invalidName
  /-- One character is expected; the other is the first byte of what was found. -/
  | expectedChar (expected found : Char)
  /-- One of several characters is expected, as described. -/
  | expectedOneOf (expected : String) (found : Char)
  /-- A fixed text is expected. -/
  | expectedText (expected : String)
  | mismatchedTag (expected found : List Char)
  | unexpectedCloseTag
  | duplicateAttribute (name : List Char)
  | duplicateNamespace (qualifier : List Char)
  | unknownNamespace (qualifier : List Char)
  /-- The qualifier that is reserved for XML itself is bound to another namespace. -/
  | reboundXml
  /-- The namespace of XML itself is bound to another qualifier. -/
  | aliasedXml
  /-- The namespace of namespace declarations is declared. -/
  | declaredXmlns
  /-- The qualifier of namespace declarations is used for an element. -/
  | elementInXmlns
  | malformedReference
  | unknownReference (name : List Char)
  | referenceLoop
  /-- A `<` in an attribute's value that comes from a reference inside an entity. -/
  | lessThanInAttribute
  | sectionEndInText
  | forbiddenChar (c : Char)
  | hyphensInComment
  | misplacedDeclaration
  | invalidExternalId

/-- The wording of a cause, given the wording of its place. -/
def Cause.message (place : String) : Cause → String
  | .noRoot => "the document does not have a root node"
  | .unclosedRoot => "the root node was opened but never closed"
  | .endOfText => "unexpected end of stream"
  | .unknownToken => s!"unknown token at {place}"
  | .invalidName => s!"invalid name token at {place}"
  | .expectedChar expected found => s!"expected '{expected}' not '{found}' at {place}"
  | .expectedOneOf expected found => s!"expected {expected} not '{found}' at {place}"
  | .expectedText expected => s!"expected '{expected}' at {place}"
  | .mismatchedTag expected found =>
    s!"expected '{String.ofList expected}' tag, not '{String.ofList found}' at {place}"
  | .unexpectedCloseTag => s!"unexpected close tag at {place}"
  | .duplicateAttribute name => s!"attribute '{String.ofList name}' at {place} is already defined"
  | .duplicateNamespace q => s!"namespace '{String.ofList q}' at {place} is already defined"
  | .unknownNamespace q => s!"an unknown namespace prefix '{String.ofList q}' at {place}"
  | .reboundXml => s!"'xml' namespace prefix mapped to wrong URI at {place}"
  | .aliasedXml => s!"the 'xml' namespace URI is used for not 'xml' prefix at {place}"
  | .declaredXmlns => s!"the 'xmlns' URI is used at {place}, but it must not be declared"
  | .elementInXmlns => s!"the 'xmlns' prefix is used at {place}, but it must not be"
  | .malformedReference => s!"malformed entity reference at {place}"
  | .unknownReference name => s!"unknown entity reference '{String.ofList name}' at {place}"
  | .referenceLoop => s!"a possible entity reference loop is detected at {place}"
  | .lessThanInAttribute => s!"unescaped '<' found at {place}"
  | .sectionEndInText => s!"']]>' at {place} is not allowed inside a character data"
  | .forbiddenChar c =>
    "a non-XML character '" ++ String.ofList (shownChar '\x27' c) ++ s!"' found at {place}"
  | .hyphensInComment => s!"comment at {place} contains '--'"
  | .misplacedDeclaration => s!"unexpected XML declaration at {place}"
  | .invalidExternalId => s!"invalid ExternalID at {place}"

/-- A fault, and the index of the character at which it lies. -/
structure Fault where
  /-- What is wrong. -/
  cause : Cause
  /-- The index in the document's text. -/
  index : Nat

/-- A fault with its place in the text. -/
structure LocatedFault where
  /-- What is wrong. -/
  cause : Cause
  /-- The place in the text. -/
  position : Position

/-- A fault with its place in the text that was read. -/
def Fault.locate (f : Fault) (text : List Char) : LocatedFault :=
  ⟨f.cause, charPosition text f.index⟩

/-- The wording of a located fault. -/
def LocatedFault.message (f : LocatedFault) : String :=
  f.cause.message s!"{f.position.line}:{f.position.column}"

end Specimen.Xml
