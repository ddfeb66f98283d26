import Specimen.Document.Format
import Specimen.Inference.Infer

set_option autoImplicit false

/-! # Requests

What a run of the program is asked for: classes or a schema, from which inputs, and how the
schemas of the inputs are inferred.
-/

namespace Specimen.Command

open Specimen.Document Specimen.Inference

/-- What is made of the inputs. -/
inductive Product
  /-- A Java class for each class of the schemas. -/
  | classes
  /-- The schemas as JSON. -/
  | schema
  deriving DecidableEq

/-- How the root classes of the inputs are named. -/
inductive Naming
  /-- The qualified name of the root class of the only input. -/
  | root (name : String)
  /-- The package of the root classes, which are named after the inputs. -/
  | package (name : String)
  deriving DecidableEq

/-- What part of each JSON input is the sample: first a pointer, then a filter is followed. -/
structure Selection where
  /-- The pointer to the sample. -/
  pointer : Option String
  /-- The filter whose only result is the sample. -/
  filter : Option String
  deriving DecidableEq

/-- The whole input is the sample. -/
def Selection.isWhole (s : Selection) : Bool := s.pointer.isNone && s.filter.isNone

/-- What a run is asked for. -/
structure Request where
  /-- What is made of the inputs. -/
  product : Product
  /-- The paths of the inputs, or patterns for them. -/
  inputs : List String
  /-- The format of all inputs; without one it is found out for each. -/
  format : Option Format
  /-- The part of each input that is the sample. -/
  selection : Selection
  /-- The names of the root classes. -/
  naming : Naming
  /-- What the inference is asked for. -/
  options : Options
  /-- The path of what is made; without one it is printed. -/
  output : Option String
  /-- Nothing is done. -/
  isDry : Bool
  deriving DecidableEq

end Specimen.Command
