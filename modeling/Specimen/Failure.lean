import Specimen.Document.Element
import Specimen.Json.Fault
import Specimen.Xml.Fault

set_option autoImplicit false

/-! # Failures

Why no schema can be inferred from a sample. Every failure has one of three kinds and a wording.
-/

namespace Specimen

open Specimen.Document

/-- What a failure is about. -/
inductive FailureKind
  /-- The sample is not a document. -/
  | malformedInput
  /-- A name or an option that the caller gave cannot be used. -/
  | invalidArgument
  /-- The parts of a document contradict each other. -/
  | unsupportedShape
  deriving DecidableEq

/-- Why an inference fails. -/
inductive Failure
  /-- The text is not a JSON document of the expected form. -/
  | json (fault : Json.LocatedFault)
  /-- The text is not an XML document. -/
  | xml (fault : Xml.LocatedFault)
  /-- A class would be named after an empty name. -/
  | emptyName
  /-- The name of the root class has no package. -/
  | rootWithoutPackage (name : String)
  /-- The package or the class part of the root class's name is empty. -/
  | rootWithEmptyPart (name : String)
  /-- A container of a kind that has no attributes has some. -/
  | unexpectedAttributes (origin : Origin) (count : Nat)
  /-- A pointer selects no part of the document. -/
  | nothingSelected (pointer : String)
  /-- A part of a document that is not JSON was asked for. -/
  | selectionFromXml (path : String)
  /-- A filter has not exactly one result. -/
  | filterResultCount (filter : String) (count : Nat)
  /-- A filter cannot be understood, or fails. -/
  | filterFailure
  /-- A result of a filter is no JSON document. -/
  | filterResult

/-- What a failure is about. -/
def Failure.kind : Failure → FailureKind
  | .json _ => .malformedInput
  | .xml _ => .malformedInput
  | .filterResult => .malformedInput
  | .unexpectedAttributes _ _ => .unsupportedShape
  | _ => .invalidArgument

/-- The wording of a failure's kind. -/
def FailureKind.description : FailureKind → String
  | .malformedInput => "malformed input"
  | .invalidArgument => "invalid argument"
  | .unsupportedShape => "unsupported shape"

/-- What is wrong, without the kind. What is wrong with a filter is not told. -/
def Failure.details : Failure → String
  | .json fault => fault.message
  | .xml fault => "xml: " ++ fault.message
  | .emptyName => "cannot derive a class name from an empty field name"
  | .rootWithoutPackage name =>
    s!"root name `{name}` has no package (expected e.g. com.example.{name})"
  | .rootWithEmptyPart name => s!"root name `{name}` has an empty package or class segment"
  | .unexpectedAttributes origin count =>
    s!"{origin.name} container carries {count} attribute(s)"
  | .nothingSelected pointer => s!"JSON pointer `{pointer}` selects nothing"
  | .selectionFromXml path =>
    s!"--json-pointer/--jq-expr only apply to JSON input ({path} is XML)"
  | .filterResultCount filter count =>
    s!"jq `{filter}` yielded {count} values; exactly one sample document is required"
  | .filterFailure => ""
  | .filterResult => ""

/-- A failure that has a wording; those of filters have none. -/
def Failure.isWorded : Failure → Bool
  | .filterFailure => false
  | .filterResult => false
  | _ => true

/-- The wording of a failure. -/
def Failure.message (f : Failure) : String := f.kind.description ++ ": " ++ f.details

end Specimen
