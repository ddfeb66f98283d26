import Specimen.Text.Position

set_option autoImplicit false

/-! # Faults of JSON text

What can be wrong with a JSON text (`Cause`), where in the tree (`Segment`) and where in the
text. While a text is read a fault knows how many bytes were still unread when it arose
(`Fault.unread`); `Fault.locate` turns that into a line and a column of the text.
-/

namespace Specimen.Json

open Specimen.Text

/-- The kind of value that was found where another kind was expected. -/
inductive Found
  | null
  | bool (value : Bool)
  | integer (value : Int)
  /-- A number with a fraction or an exponent, by its text. -/
  | float (digits : String)
  | text (value : String)
  | sequence
  | map

/-- What is wrong with a JSON text. -/
inductive Cause
  | endOfValue
  | endOfString
  | endOfList
  | endOfObject
  | expectedValue
  | expectedWord
  | expectedColon
  | expectedListCommaOrEnd
  | expectedObjectCommaOrEnd
  | keyMustBeString
  | trailingComma
  | trailingCharacters
  | invalidNumber
  | numberOutOfRange
  | controlCharacter
  | invalidEscape
  | loneSurrogate
  | endOfSurrogatePair
  | tooDeep
  | unknownVariant (name : String)
  | invalidKind (found : Found) (expected : String)
  | duplicateField (name : String)

/-- How a value of an unexpected kind is named. -/
def Found.description : Found → String
  | .null => "null"
  | .bool b => s!"boolean `{b}`"
  | .integer i => s!"integer `{i}`"
  | .float digits => s!"floating point `{digits}`"
  | .text t => "string " ++ t
  | .sequence => "sequence"
  | .map => "map"

/-- The wording of a cause. -/
def Cause.message : Cause → String
  | .endOfValue => "EOF while parsing a value"
  | .endOfString => "EOF while parsing a string"
  | .endOfList => "EOF while parsing a list"
  | .endOfObject => "EOF while parsing an object"
  | .expectedValue => "expected value"
  | .expectedWord => "expected ident"
  | .expectedColon => "expected `:`"
  | .expectedListCommaOrEnd => "expected `,` or `]`"
  | .expectedObjectCommaOrEnd => "expected `,` or `\x7d`"
  | .keyMustBeString => "key must be a string"
  | .trailingComma => "trailing comma"
  | .trailingCharacters => "trailing characters"
  | .invalidNumber => "invalid number"
  | .numberOutOfRange => "number out of range"
  | .controlCharacter => "control character (\\u0000-\\u001F) found while parsing a string"
  | .invalidEscape => "invalid escape"
  | .loneSurrogate => "lone leading surrogate in hex escape"
  | .endOfSurrogatePair => "unexpected end of hex escape"
  | .tooDeep => "recursion limit exceeded"
  | .unknownVariant name => s!"unknown variant `{name}`, expected `literal` or `sniff`"
  | .invalidKind found expected => s!"invalid type: {found.description}, expected {expected}"
  | .duplicateField name => s!"duplicate field `{name}`"

/-- A step from a value to a part of it. -/
inductive Segment
  /-- The member of an object with this name. -/
  | key (name : String)
  /-- The element of an array with this index. -/
  | index (i : Nat)
  /-- The member of an object whose name is not known yet. -/
  | unknown

/-- A fault met while reading. -/
structure Fault where
  /-- What is wrong. -/
  cause : Cause
  /-- The way from the value being read to the part that is wrong. -/
  path : List Segment
  /-- The bytes of the text behind the place of the fault. -/
  unread : Nat

namespace Fault

/-- A fault before the text `rest`. -/
def before (cause : Cause) (rest : List Char) : Fault := ⟨cause, [], byteCount rest⟩

/-- A fault behind the first byte of the text `rest`, or at the end if there is none. -/
def within (cause : Cause) (rest : List Char) : Fault := ⟨cause, [], byteCount rest - 1⟩

/-- The same fault, seen from a value that the faulty value is a part of. -/
def under (segment : Segment) (f : Fault) : Fault := { f with path := segment :: f.path }

end Fault

/-- A fault with its place in the text. -/
structure LocatedFault where
  /-- What is wrong. -/
  cause : Cause
  /-- The way from the document to the part that is wrong; none for what follows it. -/
  path : Option (List Segment)
  /-- The place in the text. -/
  position : Position

/-- The place of a fault in the text that was read. -/
def Fault.positionIn (f : Fault) (text : List Char) : Position :=
  bytePosition text (byteCount text - f.unread)

/-- How a path is written: steps to members are separated from what precedes them by a point,
and the path to the document itself is a point. -/
def pathText : List Segment → String
  | [] => "."
  | first :: rest => stepText first ++ String.join (rest.map separated)
where
  /-- One step. -/
  stepText : Segment → String
    | .key name => name
    | .index i => s!"[{i}]"
    | .unknown => "?"
  /-- A step that is not the first. -/
  separated : Segment → String
    | .index i => stepText (.index i)
    | step => "." ++ stepText step

/-- The wording of a located fault. -/
def LocatedFault.message (f : LocatedFault) : String :=
  let place :=
    match f.path with
    | some path => s!"at JSON path {pathText path} → "
    | none => "after JSON document: "
  s!"{place}{f.cause.message} at line {f.position.line} column {f.position.column}"

end Specimen.Json
