set_option autoImplicit false

/-! # Characters and names of XML

The character classes of XML 1.0: white space, the characters that may stand in a document, and
those that start and continue names. A qualified name has a qualifier, which may be empty, and
a local part.
-/

namespace Specimen.Xml

/-- XML white space. -/
def isSpace (c : Char) : Bool := c == ' ' || c == '\t' || c == '\n' || c == '\r'

/-- A character that may stand in a document. -/
def isAllowed (c : Char) : Bool :=
  if c.toNat < 0x20 then isSpace c else c.toNat != 0xFFFE && c.toNat != 0xFFFF

/-- The code points beyond ASCII with which a name may start. -/
def nameStartRanges : List (Nat × Nat) := [
  (0xC0, 0xD6), (0xD8, 0xF6), (0xF8, 0x2FF), (0x370, 0x37D), (0x37F, 0x1FFF),
  (0x200C, 0x200D), (0x2070, 0x218F), (0x2C00, 0x2FEF), (0x3001, 0xD7FF), (0xF900, 0xFDCF),
  (0xFDF0, 0xFFFD), (0x10000, 0xEFFFF)]

/-- The code points beyond ASCII that may stand inside a name but not at its start. -/
def nameInnerRanges : List (Nat × Nat) := [(0xB7, 0xB7), (0x300, 0x36F), (0x203F, 0x2040)]

/-- A number lies in one of some ranges. -/
def inRanges (ranges : List (Nat × Nat)) (n : Nat) : Bool :=
  ranges.any fun (low, high) => low ≤ n && n ≤ high

/-- A character with which a name may start. -/
def isNameStart (c : Char) : Bool :=
  c.isAlpha || c == ':' || c == '_' || inRanges nameStartRanges c.toNat

/-- A character that may stand inside a name. -/
def isNameChar (c : Char) : Bool :=
  isNameStart c || c.isDigit || c == '-' || c == '.' || inRanges nameInnerRanges c.toNat

/-- A name with the qualifier in front of its colon. -/
structure QName where
  /-- The part in front of the colon; empty if there is none. -/
  qualifier : List Char
  /-- The part behind the colon. -/
  name : List Char
  deriving DecidableEq

/-- A qualified name as it is written. -/
def QName.text (q : QName) : List Char :=
  if q.qualifier.isEmpty then q.name else q.qualifier ++ ':' :: q.name

end Specimen.Xml
