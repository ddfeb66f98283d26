import Specimen.Xml.Prolog

set_option autoImplicit false

/-! # Elements and their content

Reading tags, text and what else stands inside elements into pieces of markup, and reading a
whole document (`readDocument`). A start tag that is cut off by the end of the text behind its
name or behind an attribute ends there without a fault.
-/

namespace Specimen.Xml

open Cursor

/-- An attribute's value and its quotes. No `<` may stand in it. -/
def takeValue (s : Cursor) : Except Fault (Cursor × Behind s) := do
  let (quote, t) ← s.takeQuote
  let (text, u) ← t.1.takeUntil fun r => r.head? == some quote || r.head? == some '<'
  let v ← u.1.expect quote
  return (⟨t.1.index, text⟩, t.trans (u.behind v).weaken)

/-- An attribute. -/
def readAttribute (s : Cursor) : Scan (Behind s) := do
  let (name, t) ← s.takeQName
  let u ← t.1.expectEquals
  let (value, v) ← takeValue u.1
  Scan.piece (.attribute name value s.index)
  return t.trans (u.trans v.weaken).weaken

/-- The attributes and the end of a start tag, and whether the element has content. An attribute
has to be separated from what precedes it. -/
def readTagRest (s : Cursor) : Scan (Bool × From s) :=
  if s.rest.isEmpty then pure (false, s.here)
  else
    let t := s.skipSpaces
    match t.1.rest with
    | [] => s.fault (α := Bool × From s) .endOfText
    | c :: _ =>
      if c = '/' then do
        let u ← (t.1.drop 1).1.expect '>'
        Scan.piece (.tagEnd true)
        return (false, (t.trans (t.1.drop 1)).trans u.weaken)
      else if c = '>' then do
        Scan.piece (.tagEnd false)
        return (true, t.trans (t.1.drop 1))
      else if t.1.index = s.index then
        s.fault (α := Bool × From s) (.expectedOneOf "a whitespace" (firstByte c))
      else do
        let u ← readAttribute t.1
        have : u.1.rest.length < s.rest.length := (t.behind u).2
        let (hasContent, v) ← readTagRest u.1
        return (hasContent, (t.behind u).weaken.trans v)
termination_by s.rest.length

/-- A start tag, and whether the element has content. -/
def readTag (s : Cursor) (h : s.rest ≠ []) : Scan (Bool × Behind s) := do
  let (name, t) ← (s.dropBehind h 0).1.takeQName
  Scan.piece (.tag name s.index)
  let t := (s.dropBehind h 0).trans t.weaken
  let (hasContent, u) ← readTagRest t.1
  return (hasContent, t.trans u)

/-- A close tag. -/
def readCloseTag (s : Cursor) (h : s.rest ≠ []) : Scan (Behind s) := do
  let t := s.dropBehind h 1
  let (name, u) ← t.1.takeQName
  let u := t.trans (u.trans u.1.skipSpaces).weaken
  let v ← u.1.expect '>'
  Scan.piece (.closeTag name s.index)
  return u.trans v.weaken

/-- Text up to the next markup. The end of verbatim text may not stand in it. -/
def readText (c : Char) (r : List Char) (index : Nat) :
    Scan (Behind ⟨index, c :: r⟩) := do
  if !isAllowed c then
    Cursor.fault (α := Behind ⟨index, c :: r⟩) ⟨index, c :: r⟩ (.forbiddenChar c)
  else
    let (text, t) ← Cursor.takeUntil (fun r => r.head? == some '<') ⟨index + 1, r⟩
    if contains [']', ']', '>'] (c :: text) then
      t.1.fault (α := Behind ⟨index, c :: r⟩) .sectionEndInText
    else
      Scan.piece (.text ⟨index, c :: text⟩)
      return ⟨t.1, Nat.lt_succ_of_le t.2⟩

/-- The content of an element, up to the end of its close tag or of the text. `level` is the
number of elements inside it that are open. -/
def readContent (level : Nat) (s : Cursor) : Scan (From s) :=
  match h : s.rest with
  | [] => pure s.here
  | c :: r =>
    have hs : s.rest ≠ [] := by simp [h]
    if c = '<' then
      if r.isEmpty then s.fault (α := From s) .unknownToken
      else if s.startsWith commentOpening then do
        let t ← readComment s hs
        let u ← readContent level t.1
        return t.weaken.trans u
      else if s.startsWith verbatimOpening then do
        let t ← readVerbatim s hs
        let u ← readContent level t.1
        return t.weaken.trans u
      else if s.startsWith "<!" then s.fault (α := From s) .unknownToken
      else if s.startsWith instructionOpening then do
        let t ← readInstruction s hs
        let u ← readContent level t.1
        return t.weaken.trans u
      else if s.startsWith "</" then do
        let t ← readCloseTag s hs
        if level = 0 then return t.weaken
        else
          let u ← readContent (level - 1) t.1
          return t.weaken.trans u
      else do
        let (hasContent, t) ← readTag s hs
        let u ← readContent (if hasContent then level + 1 else level) t.1
        return t.weaken.trans u
    else do
      let t ← readText c r s.index
      have ht : t.1.rest.length < s.rest.length := by simpa [h] using t.2
      let u ← readContent level t.1
      return ⟨u.1, Nat.le_of_lt (Nat.lt_of_le_of_lt u.2 ht)⟩
termination_by s.rest.length
decreasing_by all_goals first | exact t.2 | exact ht

/-- The pieces of a stretch of content, such as the text of an entity. -/
def contentPieces (s : Cursor) : Scan Unit := do
  let _ ← readContent 0 s

/-- The root element, if one starts here. -/
def readRoot (s : Cursor) : Scan (From s) :=
  match h : s.rest with
  | '<' :: _ => do
    let (hasContent, t) ← readTag s (by simp [h])
    if hasContent then
      let u ← readContent 0 t.1
      return t.weaken.trans u
    else return t.weaken
  | _ => pure s.here

/-- The document type declaration and what follows it in front of the root element, if one
starts here. -/
def readOptionalType (s : Cursor) : Scan (From s) :=
  if s.startsWith "<!DOCTYPE" then do
    let t ← readDocumentType s
    let u ← readMisc t.1
    return t.trans (u.trans u.1.skipSpaces)
  else pure s.here

/-- A byte order mark in front of a document. -/
def byteOrderMark : Char := '\ufeff'

/-- The XML declaration, if one starts here. -/
def skipOptionalDeclaration (s : Cursor) : Except Fault (From s) :=
  if s.startsWith declarationOpening then skipDeclaration s else .ok s.here

/-- The pieces of a document: declaration, document type and root element in this order, and
comments, instructions and white space between them. -/
def readDocument (text : List Char) : Scan Unit := do
  let s : Cursor := if text.head? = some byteOrderMark then ⟨1, text.tail⟩ else ⟨0, text⟩
  let t ← skipOptionalDeclaration s
  let u ← readMisc t.1
  let v ← readOptionalType u.1
  let w ← readRoot v.1
  let x ← readMisc w.1
  if x.1.rest.isEmpty then return ()
  else x.1.fault (α := Unit) .unknownToken

end Specimen.Xml
