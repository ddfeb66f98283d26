import Specimen.Xml.Cursor

set_option autoImplicit false

/-! # The markup of a document

The pieces that an XML text consists of, in the order in which they stand there. Reading a text
into pieces needs no knowledge of which elements are open; where it ends with a fault, the
pieces in front of the fault are still there (`Scan`), because a fault in the meaning of an
earlier piece comes first.
-/

namespace Specimen.Xml

/-- A piece of markup or text. -/
inductive Markup
  | comment (text : List Char)
  | instruction (target text : List Char)
  /-- The declaration of an entity with its text. -/
  | entity (name : List Char) (text : Cursor)
  /-- The start of a start tag. -/
  | tag (name : QName) (index : Nat)
  /-- An attribute with its written value. -/
  | attribute (name : QName) (value : Cursor) (index : Nat)
  /-- The end of a start tag; an empty element ends there as well. -/
  | tagEnd (isEmpty : Bool)
  | closeTag (name : QName) (index : Nat)
  /-- Text with references in it. -/
  | text (content : Cursor)
  /-- Text without references. -/
  | verbatim (content : List Char)

/-- The pieces that were read, and how the reading ended. -/
structure Scan (α : Type) where
  /-- The pieces. -/
  pieces : List Markup
  /-- The first fault, or what the reading leads to. -/
  result : Except Fault α

namespace Scan

/-- A reading that takes no piece. -/
def ofExcept {α : Type} (result : Except Fault α) : Scan α := ⟨[], result⟩

/-- One piece. -/
def piece (m : Markup) : Scan Unit := ⟨[m], .ok ()⟩

/-- One reading after the other; a fault ends it. -/
def andThen {α β : Type} (first : Scan α) (next : α → Scan β) : Scan β :=
  match first.result with
  | .error f => ⟨first.pieces, .error f⟩
  | .ok a =>
    let second := next a
    ⟨first.pieces ++ second.pieces, second.result⟩

instance : Monad Scan where
  pure a := ⟨[], .ok a⟩
  bind := andThen

instance : MonadLift (Except Fault) Scan where
  monadLift := ofExcept

end Scan

open Cursor

/-! ## Comments, instructions and verbatim text -/

/-- What opens an XML declaration. -/
def declarationOpening : String := "<?xml "

/-- What opens a comment. -/
def commentOpening : String := "<!--"

/-- What opens an instruction. -/
def instructionOpening : String := "<?"

/-- What opens verbatim text. -/
def verbatimOpening : String := "<![CDATA["

/-- A comment, which holds no two hyphens in a row and does not end in one. -/
def readComment (s : Cursor) (h : s.rest ≠ []) : Scan (Behind s) := do
  let (text, t) ← (s.dropBehind h 3).1.takeThrough "-->"
  if contains ['-', '-'] text || text.getLast? == some '-' then
    s.fault (α := Behind s) .hyphensInComment
  else
    Scan.piece (.comment text)
    return (s.dropBehind h 3).trans t

/-- A processing instruction; an XML declaration is none. -/
def readInstruction (s : Cursor) (h : s.rest ≠ []) : Scan (Behind s) := do
  if s.startsWith declarationOpening then
    s.fault (α := Behind s) .misplacedDeclaration
  else
    let (target, t) ← (s.dropBehind h 1).1.takeName
    let u := (s.dropBehind h 1).trans (t.trans t.1.skipSpaces)
    let (text, v) ← u.1.takeThrough "?>"
    Scan.piece (.instruction target text)
    return u.trans v

/-- Verbatim text, in which nothing but its end is markup. -/
def readVerbatim (s : Cursor) (h : s.rest ≠ []) : Scan (Behind s) := do
  let (text, t) ← (s.dropBehind h 8).1.takeThrough "]]>"
  Scan.piece (.verbatim text)
  return (s.dropBehind h 8).trans t

end Specimen.Xml
