import Specimen.Xml.Content
import Specimen.Xml.Node
import Specimen.Xml.Reference

set_option autoImplicit false

/-! # From markup to the tree

The pieces of a document are put together one after the other: the assembly holds the elements
that are open, the entities that are declared, and the attributes and namespaces of the start
tag that is being read. A reference to an entity puts the pieces of the entity's text together
in its place; entities may be nested ten deep, and one reference in a document may lead to at
most 255 further ones.
-/

namespace Specimen.Xml

open Cursor

/-! ## The assembly -/

/-- An attribute of a start tag whose end has not come. -/
structure PendingAttribute where
  name : QName
  value : List Char
  /-- The place of the attribute. -/
  index : Nat

/-- Namespaces by their qualifiers; the default namespace has none. The first that fits
counts. -/
abbrev Namespaces : Type := List (Option (List Char) × List Char)

/-- An element that is open. -/
structure OpenElement where
  name : QName
  attributes : List (String × String)
  /-- The namespaces that are declared for its content. -/
  namespaces : Namespaces
  /-- The nodes inside it, the latest first. -/
  children : List Node

/-- A document that is being put together. -/
structure Assembly where
  /-- The open elements, the innermost first. -/
  openElements : List OpenElement
  /-- The nodes outside all elements, the latest first. -/
  outside : List Node
  /-- The latest start tag of the text or of the entity that is being read. -/
  tag : Option (QName × Nat)
  /-- The attributes of the start tag, in order. -/
  attributes : List PendingAttribute
  /-- The namespaces that the start tag declares, in order. -/
  namespaces : Namespaces
  /-- The entities that are declared, the first ones first. -/
  entities : List (List Char × Cursor)
  /-- The references inside entities since the last one outside. -/
  references : Nat

namespace Assembly

/-- Nothing has been read. -/
def start : Assembly := ⟨[], [], none, [], [], [], 0⟩

/-- A node is added to the innermost open element. -/
def addNode (a : Assembly) (n : Node) : Assembly :=
  match a.openElements with
  | [] => { a with outside := n :: a.outside }
  | e :: es => { a with openElements := { e with children := n :: e.children } :: es }

/-- Text, given from its end, is added unless it is empty. -/
def addText (a : Assembly) (reversed : List Char) : Assembly :=
  if reversed.isEmpty then a else a.addNode (.text (String.ofList reversed.reverse))

/-! ## Namespaces -/

/-- The qualifier that is reserved for XML itself. -/
def xmlQualifier : List Char := ['x', 'm', 'l']

/-- The qualifier of namespace declarations. -/
def xmlnsQualifier : List Char := ['x', 'm', 'l', 'n', 's']

/-- The namespace of XML itself. -/
def xmlNamespace : List Char := "http://www.w3.org/XML/1998/namespace".toList

/-- The namespace of namespace declarations. -/
def xmlnsNamespace : List Char := "http://www.w3.org/2000/xmlns/".toList

/-- The namespaces that hold for the start tag: its own and, behind them, those around it. -/
def scope (a : Assembly) : Namespaces :=
  a.namespaces ++ ((a.openElements.head?.map OpenElement.namespaces).getD [])

/-- The namespace of a qualifier; an empty qualifier may have none. -/
def lookUp (namespaces : Namespaces) (qualifier : List Char) (index : Nat) :
    Except Fault (Option (List Char)) :=
  if qualifier.isEmpty then .ok (namespaces.lookup none)
  else
    match namespaces.lookup (some qualifier) with
    | some uri => .ok (some uri)
    | none => .error ⟨.unknownNamespace qualifier, index⟩

/-- The namespace of an attribute; without a qualifier it has none. -/
def attributeNamespace (namespaces : Namespaces) (p : PendingAttribute) :
    Except Fault (Option (List Char)) :=
  if p.name.qualifier = xmlQualifier then .ok (some xmlNamespace)
  else if p.name.qualifier.isEmpty then .ok none
  else lookUp namespaces p.name.qualifier p.index

/-- The attributes of a start tag, no two with the same namespace and local name. `done` holds
the namespaces and names of those in front. -/
def resolveAttributes (namespaces : Namespaces) (done : List (Option (List Char) × List Char)) :
    List PendingAttribute → Except Fault (List (String × String))
  | [] => .ok []
  | p :: ps =>
    match attributeNamespace namespaces p with
    | .error f => .error f
    | .ok uri =>
      if done.contains (uri, p.name.name) then
        .error ⟨.duplicateAttribute p.name.name, p.index⟩
      else
        (resolveAttributes namespaces (done ++ [(uri, p.name.name)]) ps).map
          ((String.ofList p.name.name, String.ofList p.value) :: ·)

/-- A declaration of the namespace `uri` for a qualifier. -/
def declareNamespace (a : Assembly) (qualifier uri : List Char) (index : Nat) :
    Except Fault Assembly :=
  if uri = xmlnsNamespace then .error ⟨.declaredXmlns, index⟩
  else if qualifier = xmlQualifier ∧ uri ≠ xmlNamespace then .error ⟨.reboundXml, index⟩
  else if qualifier ≠ xmlQualifier ∧ uri = xmlNamespace then .error ⟨.aliasedXml, index⟩
  else if a.namespaces.any fun n => n.1 == some qualifier then
    .error ⟨.duplicateNamespace qualifier, index⟩
  else if uri = xmlNamespace then .ok a
  else .ok { a with namespaces := a.namespaces ++ [(some qualifier, uri)] }

/-- A declaration of the default namespace. -/
def declareDefault (a : Assembly) (uri : List Char) (index : Nat) : Except Fault Assembly :=
  if uri = xmlNamespace then .error ⟨.aliasedXml, index⟩
  else if uri = xmlnsNamespace then .error ⟨.declaredXmlns, index⟩
  else .ok { a with namespaces := a.namespaces ++ [(none, uri)] }

/-- An attribute with its value is added to the start tag; those that declare namespaces are
none of its attributes. -/
def addAttribute (a : Assembly) (name : QName) (value : List Char) (index : Nat) :
    Except Fault Assembly :=
  if name.qualifier = xmlnsQualifier then a.declareNamespace name.name value index
  else if name.name = xmlnsQualifier then a.declareDefault value index
  else .ok { a with attributes := a.attributes ++ [⟨name, value, index⟩] }

/-! ## Tags -/

/-- A start tag begins. -/
def beginTag (a : Assembly) (name : QName) (index : Nat) : Except Fault Assembly :=
  if name.qualifier = xmlnsQualifier then .error ⟨.elementInXmlns, index + 1⟩
  else .ok { a with tag := some (name, index) }

/-- The attributes of the start tag, and the assembly without them. -/
def takeAttributes (a : Assembly) : Except Fault (List (String × String) × Assembly) :=
  (resolveAttributes a.scope [] a.attributes).map fun attributes =>
    (attributes, { a with attributes := [], namespaces := [] })

/-- A start tag ends. -/
def endTag (a : Assembly) (isEmpty : Bool) : Except Fault Assembly :=
  match a.tag with
  | none => .ok a
  | some (name, index) => do
    let (attributes, b) ← a.takeAttributes
    let _ ← if name.qualifier.isEmpty then .ok none else lookUp a.scope name.qualifier (index + 1)
    if isEmpty then return b.addNode (.element (String.ofList name.name) attributes [])
    else
      return { b with openElements := ⟨name, attributes, a.scope, []⟩ :: b.openElements }

/-- A close tag ends the innermost open element. Inside an entity it needs a start tag in front
of it. -/
def closeTag (a : Assembly) (name : QName) (index : Nat) : Except Fault Assembly :=
  match a.tag with
  | none => .error ⟨.unexpectedCloseTag, index⟩
  | some _ => do
    let (_, b) ← a.takeAttributes
    match b.openElements with
    | [] => .error ⟨.unexpectedCloseTag, index⟩
    | e :: es =>
      if e.name = name then
        return { b with openElements := es }.addNode
          (.element (String.ofList e.name.name) e.attributes e.children.reverse)
      else .error ⟨.mismatchedTag e.name.text name.text, index⟩

/-! ## References -/

/-- The deepest nesting of entities. -/
def nestingLimit : Nat := 10

/-- The most references inside entities that one reference leads to. -/
def referenceLimit : Nat := 255

/-- The text of an entity. -/
def entity? (a : Assembly) (name : List Char) : Option Cursor := a.entities.lookup name

/-- A reference to an entity with `levels` of nesting left is counted; the cursor is behind
it. -/
def countReference (a : Assembly) (levels : Nat) (s : Cursor) : Except Fault Assembly :=
  if levels < nestingLimit ∧ referenceLimit ≤ a.references then s.fault .referenceLoop
  else if levels = 0 then s.fault .referenceLoop
  else if levels < nestingLimit then .ok { a with references := a.references + 1 }
  else .ok a

/-- A reference with `levels` of nesting left has been replaced: outside all entities the count
starts again. -/
def forgetReferences (a : Assembly) (levels : Nat) : Assembly :=
  if levels = nestingLimit then { a with references := 0 } else a

/-- How the text of an entity is put into a document or a value. -/
abbrev Expansion (β : Type) : Type := Cursor → β → Except Fault β

/-- Text with references in it is added. `reversed` is text that has not been added, from its
end; `isRaw` says that the next character is taken as it is. -/
def addContent (levels : Nat) (expand : Expansion Assembly) (s : Cursor)
    (reversed : List Char) (isRaw : Bool) (a : Assembly) : Except Fault Assembly :=
  match h : s.rest with
  | [] => .ok (a.addText reversed)
  | c :: r =>
    if c = '&' then
      match takeReference? ⟨s.index + 1, r⟩ with
      | none => s.fault .malformedReference
      | some (.char d, t) =>
        have : t.1.rest.length < s.rest.length := Cursor.length_rest_lt h t
        if levels < nestingLimit then
          addContent levels expand t.1 (foldLineEnd reversed d t.1.rest.isEmpty) isRaw a
        else addContent levels expand t.1 (d :: reversed) true a
      | some (.entity name, t) =>
        have : t.1.rest.length < s.rest.length := Cursor.length_rest_lt h t
        match a.entity? name with
        | none => s.fault (.unknownReference name)
        | some text => do
          let b ← (a.addText reversed).countReference levels t.1
          let d ← expand text { b with tag := none }
          addContent levels expand t.1 [] false
            ({ d with tag := a.tag }.forgetReferences levels)
    else if isRaw then addContent levels expand ⟨s.index + 1, r⟩ (c :: reversed) false a
    else
      addContent levels expand ⟨s.index + 1, r⟩ (foldLineEnd reversed c r.isEmpty) false a
termination_by s.rest.length
decreasing_by all_goals first | assumption | simp [h]

/-- The written value of an attribute is added to a value, which is given from its end. -/
def addValue (levels : Nat) (expand : Expansion (List Char × Assembly)) (s : Cursor)
    (value : List Char × Assembly) : Except Fault (List Char × Assembly) :=
  match h : s.rest with
  | [] => .ok value
  | c :: r =>
    if c = '&' then
      match takeReference? ⟨s.index + 1, r⟩ with
      | none => s.fault .malformedReference
      | some (.char d, t) =>
        have : t.1.rest.length < s.rest.length := Cursor.length_rest_lt h t
        if levels < nestingLimit then
          if d = '<' then s.fault .lessThanInAttribute
          else addValue levels expand t.1 (foldSpace value.1 d none, value.2)
        else addValue levels expand t.1 (d :: value.1, value.2)
      | some (.entity name, t) =>
        have : t.1.rest.length < s.rest.length := Cursor.length_rest_lt h t
        match value.2.entity? name with
        | none => s.fault (.unknownReference name)
        | some text => do
          let b ← value.2.countReference levels t.1
          let (reversed, d) ← expand text (value.1, b)
          addValue levels expand t.1 (reversed, d.forgetReferences levels)
    else addValue levels expand ⟨s.index + 1, r⟩ (foldSpace value.1 c r.head?, value.2)
termination_by s.rest.length
decreasing_by all_goals first | assumption | simp [h]

/-- The text of an entity in the value of an attribute, with `levels` of nesting left. -/
def expandValue : (levels : Nat) → Expansion (List Char × Assembly)
  | 0, _, value => .ok value
  | levels + 1, text, value => addValue levels (expandValue levels) text value

/-! ## Pieces -/

/-- One piece is added, outside entities or inside with `levels` of nesting left. -/
def addPiece (levels : Nat) (expand : Expansion Assembly) (a : Assembly) :
    Markup → Except Fault Assembly
  | .comment text => .ok (a.addNode (.comment (String.ofList text)))
  | .instruction target text =>
    .ok (a.addNode (.instruction (String.ofList target) (String.ofList text)))
  | .entity name text => .ok { a with entities := a.entities ++ [(name, text)] }
  | .tag name index => a.beginTag name index
  | .attribute name value index => do
    let (reversed, b) ← addValue levels (expandValue levels) value ([], a)
    b.addAttribute name reversed.reverse index
  | .tagEnd isEmpty => a.endTag isEmpty
  | .closeTag name index => a.closeTag name index
  | .text content => addContent levels expand content [] false a
  | .verbatim content => .ok (a.addText (foldLineEnds content).reverse)

/-- The pieces of a reading are added; a fault with which the reading ended comes last. -/
def addPieces (levels : Nat) (expand : Expansion Assembly) (a : Assembly) (scan : Scan Unit) :
    Except Fault Assembly :=
  match scan.pieces.foldlM (addPiece levels expand) a with
  | .error f => .error f
  | .ok b => scan.result.map fun _ => b

/-- The text of an entity in content, with `levels` of nesting left. -/
def expandContent : (levels : Nat) → Expansion Assembly
  | 0, _, a => .ok a
  | levels + 1, text, a => addPieces levels (expandContent levels) a (contentPieces text)

/-! ## Documents -/

/-- The root element of a document whose pieces have all been added. -/
def root (a : Assembly) : Except Fault Node :=
  if a.openElements.isEmpty then
    match a.outside.reverse.find? Node.isElement with
    | some n => .ok n
    | none => .error ⟨.noRoot, 0⟩
  else .error ⟨.unclosedRoot, 0⟩

end Assembly

/-- The root element of an XML document. -/
def read (text : String) : Except LocatedFault Node :=
  let levels := Assembly.nestingLimit
  let assembled :=
    Assembly.addPieces levels (Assembly.expandContent levels) .start (readDocument text.toList)
  match assembled.bind Assembly.root with
  | .ok n => .ok n
  | .error f => .error (f.locate text.toList)

end Specimen.Xml
