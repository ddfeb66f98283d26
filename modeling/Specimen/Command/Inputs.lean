import Specimen.Command.Failure
import Specimen.Command.Request
import Specimen.Document.Read
import Specimen.Filter.Run
import Specimen.Json.Pointer

set_option autoImplicit false

/-! # Inputs

The inputs of a request: which files they are and how their root classes are named (`inputs`),
the sample in each of them (`sample`), and the schemas of the samples (`schemas`). Each input has
a schema of its own. The first failure ends the run: all inputs are found before any is named,
and all are named before any is read.
-/

namespace Specimen.Command

open Specimen.Document Specimen.Files Specimen.Inference

/-- An input. -/
structure Input where
  /-- The path of the file. -/
  path : String
  /-- The qualified name of the root class. -/
  rootName : String
  deriving DecidableEq

namespace Request

/-! ## Finding inputs -/

/-- The paths that an input of a request stands for: those that match, if it is a pattern. -/
def pathsOf (files : Tree) (input : String) : Except RunFailure (List String) :=
  if isPattern input.toList then
    match Pattern.ofText input.toList with
    | .error fault => .error (.badPattern input fault)
    | .ok pattern =>
      match pattern.paths files with
      | [] => .error (.nothingMatched input)
      | paths => .ok (paths.map String.ofList)
  else .ok [input]

/-- The paths of all inputs. -/
def paths (r : Request) (files : Tree) : Except RunFailure (List String) :=
  (r.inputs.mapM (pathsOf files)).map List.flatten

/-- The input at a path, with a root class in a package. -/
def inputIn (package path : String) : Except RunFailure Input :=
  match Path.stem? path.toList with
  | none => .error (.namelessInput path)
  | some stem =>
    match capitalize (String.ofList stem) with
    | .error f => .error (.unsuitableName f)
    | .ok name => .ok ⟨path, qualify package name⟩

/-- The inputs at some paths. -/
def inputsAt (naming : Naming) (paths : List String) : Except RunFailure (List Input) :=
  match naming with
  | .root name =>
    match paths with
    | [path] => .ok [⟨path, name⟩]
    | _ => .error (.inputCount paths.length)
  | .package package => paths.mapM (inputIn package)

/-- The inputs. -/
def inputFiles (r : Request) (files : Tree) : Except RunFailure (List Input) :=
  (r.paths files).bind (inputsAt r.naming)

/-! ## Samples and schemas -/

/-- The part of a JSON value that is the sample. -/
def select (s : Selection) (v : Json.Value) : Except Failure Json.Value := do
  let part ←
    match s.pointer with
    | none => pure v
    | some pointer =>
      match v.pointer? pointer with
      | none => throw (.nothingSelected pointer)
      | some part => pure part
  match s.filter with
  | none => pure part
  | some filter => Filter.runOne filter part

/-- The format of the text at a path. -/
def formatOf (r : Request) (path text : String) : Format :=
  r.format.getD ((Format.ofPath? path).getD (Format.detect text))

/-- The sample in the text at a path. A part can be selected from JSON only. -/
def sampleOf (r : Request) (path text : String) : Except Failure Element :=
  match r.formatOf path text with
  | .xml => if r.selection.isWhole then readXml text else .error (.selectionFromXml path)
  | .json => ((readJson text).bind (select r.selection)).map Element.ofJson

/-- The schema of an input. -/
def schemaOf (r : Request) (files : Tree) (input : Input) : Except RunFailure Schema :=
  match files.read input.path.toList with
  | .error fault => .error (.unreadable input.path fault)
  | .ok text =>
    match r.sampleOf input.path text with
    | .error f => .error (.noSample input.path f)
    | .ok element => (infer r.options input.rootName element).mapError (.noSchema input.path)

/-- The inputs with their schemas. -/
def schemas (r : Request) (files : Tree) : Except RunFailure (List (Input × Schema)) := do
  let inputs ← r.inputFiles files
  inputs.mapM fun input => (r.schemaOf files input).map (input, ·)

end Request

end Specimen.Command
