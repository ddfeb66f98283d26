import Specimen.Xml.Markup

set_option autoImplicit false

/-! # The prolog of a document

What may stand in front of a document's root element: the XML declaration, comments and
instructions, and the document type declaration, of which only the entities that it declares
are kept.
-/

namespace Specimen.Xml

open Cursor

/-! ## The XML declaration -/

/-- An attribute of the XML declaration, which is not kept. -/
def skipAttribute (s : Cursor) : Except Fault (From s) := do
  let (_, t) ← s.takeQName
  let u ← t.1.expectEquals
  let u := t.trans u.weaken
  let (quote, v) ← u.1.takeQuote
  let v := u.trans v.weaken
  let (_, w) ← v.1.takeUntil fun r => r.head? == some quote || r.head? == some '<'
  let w := v.trans w
  let x ← w.1.expect quote
  return w.weaken.trans x.weaken

/-- The white space that separates the attributes of the XML declaration; none is needed in
front of its end. -/
def skipDeclarationSpaces (s : Cursor) : Except Fault (From s) :=
  match s.rest with
  | [] => .ok s.here
  | c :: _ =>
    if isSpace c || s.startsWith "?>" then .ok s.skipSpaces
    else s.fault (.expectedOneOf "a whitespace" (firstByte c))

/-- An attribute of the XML declaration that may be missing, and what follows it. -/
def skipOptional (word : String) (next : (t : Cursor) → Except Fault (From t)) (s : Cursor) :
    Except Fault (From s) :=
  if s.startsWith word then do
    let t ← skipAttribute s
    let u ← next t.1
    return t.trans u
  else .ok s.here

/-- The XML declaration: a version and optionally an encoding and the independence of other
documents. -/
def skipDeclaration (s : Cursor) : Except Fault (From s) := do
  let t := (s.drop 5).trans (s.drop 5).1.skipSpaces
  if !t.1.startsWith "version" then
    t.1.fault (.expectedText "version")
  else
    let u ← skipAttribute t.1
    let u := t.trans u
    let v ← skipDeclarationSpaces u.1
    let v := u.trans v
    let w ← skipOptional "encoding" skipDeclarationSpaces v.1
    let w := v.trans w
    let x ← skipOptional "standalone" (fun t => .ok t.here) w.1
    let x := w.trans x
    let y ← x.1.skipSpaces.1.expectText "?>"
    return (x.trans x.1.skipSpaces).trans y

/-! ## Comments and instructions between the parts -/

/-- Comments, instructions and white space. -/
def readMisc (s : Cursor) : Scan (From s) :=
  let t := s.skipSpaces
  if h : t.1.rest = [] then pure t
  else if t.1.startsWith commentOpening then do
    let u ← readComment t.1 h
    have : u.1.rest.length < s.rest.length := (t.behind u).2
    let v ← readMisc u.1
    return (t.behind u).weaken.trans v
  else if t.1.startsWith instructionOpening then do
    let u ← readInstruction t.1 h
    have : u.1.rest.length < s.rest.length := (t.behind u).2
    let v ← readMisc u.1
    return (t.behind u).weaken.trans v
  else pure t
termination_by s.rest.length

/-! ## The document type declaration -/

/-- A quoted text and the cursor behind it. -/
def takeQuoted (s : Cursor) : Except Fault (Cursor × Behind s) := do
  let (quote, t) ← s.takeQuote
  let (text, u) := t.1.takeRun (· != quote)
  let v ← u.1.expect quote
  return (⟨t.1.index, text⟩, t.trans (u.behind v).weaken)

/-- White space and a quoted text. -/
def skipSpacedQuoted (s : Cursor) : Except Fault (Behind s) := do
  let t ← s.expectSpaces
  let (_, u) ← takeQuoted t.1
  return t.trans u.weaken

/-- The place of an external document: the word `SYSTEM` and a quoted text, or `PUBLIC` and two
of them. Nothing, and `false`, if neither word is there. -/
def skipExternalId (s : Cursor) : Except Fault (Bool × From s) := do
  if s.startsWith "SYSTEM" then
    let t ← skipSpacedQuoted (s.drop 6).1
    return (true, (s.drop 6).trans t.weaken)
  else if s.startsWith "PUBLIC" then
    let t ← skipSpacedQuoted (s.drop 6).1
    let u ← skipSpacedQuoted t.1
    return (true, (s.drop 6).trans (t.trans u.weaken).weaken)
  else return (false, s.here)

/-- The notation of an external entity that is no document, if it is given. -/
def skipNotation (s : Cursor) : Except Fault (From s) := do
  let t := s.skipSpaces
  if t.1.startsWith "NDATA" then
    let u := t.trans (t.1.drop 5)
    let v ← u.1.expectSpaces
    let (_, w) ← v.1.skipName
    return u.trans (v.trans w).weaken
  else return t

/-- The definition of an entity: its text, or nothing if it is external. -/
def takeDefinition (isGeneral : Bool) (s : Cursor) : Except Fault (Option Cursor × From s) :=
  match s.rest with
  | [] => s.fault .endOfText
  | c :: _ =>
    if c = '"' ∨ c = '\x27' then do
      let (text, t) ← takeQuoted s
      return (some text, t.weaken)
    else if c = 'S' ∨ c = 'P' then do
      let (found, t) ← skipExternalId s
      if !found then s.fault .invalidExternalId
      else if isGeneral then
        let u ← skipNotation t.1
        return (none, t.trans u)
      else return (none, t)
    else s.fault (.expectedOneOf "a quote, SYSTEM or PUBLIC" (firstByte c))

/-- The mark of an entity that is used in declarations only. -/
def takeParameterMark (s : Cursor) : Except Fault (Bool × From s) :=
  match s.rest with
  | '%' :: _ => do
    let t ← (s.drop 1).1.expectSpaces
    return (true, (s.drop 1).trans t.weaken)
  | _ => .ok (false, s.here)

/-- The declaration of an entity. -/
def readEntity (s : Cursor) (h : s.rest ≠ []) : Scan (Behind s) := do
  let t := s.dropBehind h 7
  let u ← t.1.expectSpaces
  let u := t.trans u.weaken
  let (isParameter, v) ← takeParameterMark u.1
  let v := u.trans v
  let (name, w) ← v.1.takeName
  let w := v.trans w
  let x ← w.1.expectSpaces
  let x := w.trans x.weaken
  let (definition, y) ← takeDefinition (!isParameter) x.1
  let y := x.trans (y.trans y.1.skipSpaces)
  match definition with
  | some text => Scan.piece (.entity name text)
  | none => pure ()
  let z ← y.1.expect '>'
  return y.trans z.weaken

/-- A declaration that is not kept, up to the next `>`. -/
def skipDeclared (s : Cursor) (h : s.rest ≠ []) : Except Fault (Behind s) := do
  let t := s.dropBehind h 0
  let t := t.trans (t.1.takeRun (· != '>')).2
  let u ← t.1.expect '>'
  return t.trans u.weaken

/-- What ends the declarations of a document type: a `>` behind the closing bracket. -/
def endSubset (s : Cursor) : Except Fault (From s) :=
  let t := s.skipSpaces
  match t.1.rest with
  | [] => s.fault .endOfText
  | c :: _ =>
    if c = '>' then .ok (t.trans (t.1.drop 1))
    else t.1.fault (.expectedOneOf "'>'" (firstByte c))

/-- The words of the declarations that are not kept. -/
def skippedDeclarations : List String := ["<!ELEMENT", "<!ATTLIST", "<!NOTATION"]

/-- The declarations of a document type, up to its end or that of the text, in front of which no
white space may stand. `start` is the place of the document type, which a declaration without an
end is reported at. -/
def readSubset (start : Nat) (s : Cursor) : Scan (From s) :=
  let t := s.skipSpaces
  if s.rest.isEmpty then pure s.here
  else if h : t.1.rest = [] then t.1.fault (α := From s) .unknownToken
  else if t.1.startsWith "<!ENTITY" then do
    let u ← readEntity t.1 h
    have : u.1.rest.length < s.rest.length := (t.behind u).2
    let v ← readSubset start u.1
    return (t.behind u).weaken.trans v
  else if t.1.startsWith commentOpening then do
    let u ← readComment t.1 h
    have : u.1.rest.length < s.rest.length := (t.behind u).2
    let v ← readSubset start u.1
    return (t.behind u).weaken.trans v
  else if t.1.startsWith instructionOpening then do
    let u ← readInstruction t.1 h
    have : u.1.rest.length < s.rest.length := (t.behind u).2
    let v ← readSubset start u.1
    return (t.behind u).weaken.trans v
  else if t.1.startsWith "]" then do
    let u ← endSubset (t.1.drop 1).1
    return (t.trans (t.1.drop 1)).trans u
  else if skippedDeclarations.any t.1.startsWith then
    match skipDeclared t.1 h with
    | .error _ => ⟨[], .error ⟨.unknownToken, start⟩⟩
    | .ok u => do
      have : u.1.rest.length < s.rest.length := (t.behind u).2
      let v ← readSubset start u.1
      return (t.behind u).weaken.trans v
  else t.1.fault (α := From s) .unknownToken
termination_by s.rest.length

/-- The document type declaration. -/
def readDocumentType (s : Cursor) : Scan (From s) := do
  let t := s.drop 9
  let u ← t.1.expectSpaces
  let (_, v) ← u.1.skipName
  let v := t.trans (u.trans (v.trans v.1.skipSpaces)).weaken
  let (_, w) ← skipExternalId v.1
  let w := v.trans (w.trans w.1.skipSpaces)
  match w.1.rest with
  | [] => s.fault (α := From s) .endOfText
  | c :: _ =>
    if c = '>' then return w.trans (w.1.drop 1)
    else if c = '[' then
      let x ← readSubset s.index (w.1.drop 1).1
      return (w.trans (w.1.drop 1)).trans x
    else w.1.fault (α := From s) (.expectedOneOf "'[' or '>'" (firstByte c))

end Specimen.Xml
