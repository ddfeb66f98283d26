import Specimen.Document.Element
import Specimen.Number.Decimal
import Specimen.Schema.FieldType
import Specimen.Text.Blank

set_option autoImplicit false

/-! # Types of leaves

The types of numbers, character data, attribute values and other leaves. A number with a
fractional part is `double`; a whole number is `long` from `2³¹ - 1` on, that number included,
and `integer` below, however small. Character data has the type of what it denotes.
-/

namespace Specimen.Inference

open Specimen.Document Specimen.Number Specimen.Schema Specimen.Text

/-- How the strings of a JSON document are typed. -/
inductive StringTyping
  /-- Every string is a string. -/
  | literal
  /-- A string has the type of what it denotes. -/
  | sniff
  deriving DecidableEq

/-- The least whole number that is typed `long`. -/
def longThreshold : Nat := 0x7FFFFFFF

/-- The type of a number. What is not a number counts as fractional, and infinities count as
whole numbers. -/
def numberType (x : Binary64) : FieldType :=
  if x.isNaN then .double
  else if x.isInfinite then if x.negative then .integer else .long
  else if !x.isWhole then .double
  else if !x.negative && longThreshold * Binary64.one ≤ x.units then .long
  else .integer

/-- The number that character data denotes: a decimal numeral between white space. -/
def tokenNumber? (token : String) : Option Binary64 :=
  (Decimal.ofText? (trim token.toList)).map Decimal.nearest

/-- The type of character data: none for empty data, `boolean` for the two truth values exactly
as they are written, that of the number if it denotes one, and `string` otherwise. -/
def tokenType (token : String) : FieldType :=
  if token.isEmpty then .null
  else if token = "true" ∨ token = "false" then .boolean
  else
    match tokenNumber? token with
    | some x => numberType x
    | none => .string

/-- The type of an attribute's value: an attribute is always there, so an empty value is a
string. -/
def attributeType (value : String) : FieldType :=
  match tokenType value with
  | .null => .string
  | t => t

/-- The type of a leaf. -/
def leafType (typing : StringTyping) : Scalar → FieldType
  | .null => .null
  | .bool _ => .boolean
  | .number x => numberType x
  | .text t =>
    match typing with
    | .literal => .string
    | .sniff => tokenType t
  | .token t => tokenType t

end Specimen.Inference
