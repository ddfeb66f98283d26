import Specimen.Command.Inputs
import Specimen.Java.Source
import Specimen.Schema.Dump

set_option autoImplicit false

/-! # Runs

What a request makes of a file tree: what is printed, the files that are written, and why it
fails if it does. Nothing is printed or written before all inputs have their schemas and, where
they are asked for, their classes. Classes are written one after the other, so a later class takes
the place of an earlier one at the same path; classes that were written stay when a later one
cannot be, and so do the directories that were created for it.
-/

namespace Specimen.Command

open Specimen.Files Specimen.Java

/-- What a run leaves behind. -/
structure Outcome where
  /-- What is printed as the result. -/
  output : String
  /-- What is told besides. -/
  notice : String
  /-- Why the run failed, if it did. -/
  failure : Option RunFailure
  /-- The files and directories behind the run. -/
  files : Tree

/-- Nothing is printed, and the files are as given. -/
def Outcome.quiet (files : Tree) : Outcome := ⟨"", "", none, files⟩

/-- The run failed, and the files are as given. -/
def Outcome.failed (files : Tree) (failure : RunFailure) : Outcome :=
  ⟨"", "", some failure, files⟩

/-- The exit code of the program. -/
def Outcome.exitCode (o : Outcome) : Nat := if o.failure.isSome then 1 else 0

/-- What is told besides the result, with the failure behind it. -/
def Outcome.messages (o : Outcome) : String :=
  o.notice ++
    match o.failure with
    | none => ""
    | some failure => "error: " ++ failure.message ++ "\n"

/-! ## Writing -/

/-- The tree with the directory of a path, or with those above it that could be created. -/
def prepare (files : Tree) (path : List Char) : Tree × Option RunFailure :=
  match Path.directory? path with
  | none => (files, none)
  | some directory =>
    match files.createDirectories directory with
    | (prepared, fault) => (prepared, fault.map (.noDirectory (String.ofList directory)))

/-- The tree with a text at a path, whose directories are created first. They stay if the text
cannot be written. -/
def writeAt (files : Tree) (path : List Char) (text : String) : Tree × Option RunFailure :=
  match prepare files path with
  | (prepared, some failure) => (prepared, some failure)
  | (prepared, none) =>
    match prepared.write path text with
    | .error fault => (prepared, some (.unwritable (String.ofList path) fault))
    | .ok written => (written, none)

/-- The path of a source file below a directory. -/
def destination (directory : List Char) (source : SourceFile) : List Char :=
  Path.join directory source.path.toList

/-- The tree with source files below a directory. The tree behind a failure holds the files in front
of the one that cannot be written, and the directories that were created for that one. -/
def writeSources (directory : List Char) (files : Tree) :
    List SourceFile → Tree × Option RunFailure
  | [] => (files, none)
  | source :: sources =>
    match writeAt files (destination directory source) source.contents with
    | (files, some failure) => (files, some failure)
    | (files, none) => writeSources directory files sources

/-- The number of files that source files make below a directory. -/
def destinationCount (directory : List Char) (sources : List SourceFile) : Nat :=
  (sources.map fun source => Path.components (destination directory source)).eraseDups.length

/-! ## Results -/

/-- A source file as it is printed: its path as a comment, then its contents. -/
def listing (source : SourceFile) : String :=
  "// " ++ source.path ++ "\n" ++ source.contents ++ "\n"

/-- The source files of the classes of schemas, in order. -/
def sourcesOf : List (Input × Schema) → Except RunFailure (List SourceFile)
  | [] => .ok []
  | (input, schema) :: rest =>
    match SourceFile.ofRegistry schema.registry with
    | .error f => .error (.noClasses input.path f)
    | .ok sources => (sourcesOf rest).map (sources ++ ·)

/-- The schemas as JSON: the only schema, or a list of schemas with their inputs. -/
def schemaText (schemas : List (Input × Schema)) : String :=
  Json.pretty
    (match schemas with
      | [(_, schema)] => schema.toJson
      | _ => .array (schemas.map fun (input, schema) =>
          .object (("input", .text input.path) :: schema.members)))

/-! ## Running -/

namespace Request

/-- The outcome for classes: they are written below a directory, or printed. -/
def runClasses (r : Request) (files : Tree) (sources : List SourceFile) : Outcome :=
  match r.output with
  | none => { Outcome.quiet files with output := String.join (sources.map listing) }
  | some directory =>
    match writeSources directory.toList files sources with
    | (files, some failure) => .failed files failure
    | (files, none) =>
      let count := destinationCount directory.toList sources
      { Outcome.quiet files with
        notice := s!"generated {count} class file(s) under {directory}\n" }

/-- The outcome for schemas: they are written to a file, or printed. -/
def runSchema (r : Request) (files : Tree) (schemas : List (Input × Schema)) : Outcome :=
  match r.output with
  | none => { Outcome.quiet files with output := schemaText schemas ++ "\n" }
  | some path =>
    match writeAt files path.toList (schemaText schemas) with
    | (files, some failure) => .failed files failure
    | (files, none) => .quiet files

/-- The outcome of a request. -/
def run (r : Request) (files : Tree) : Outcome :=
  if r.isDry then .quiet files
  else
    match r.schemas files with
    | .error failure => .failed files failure
    | .ok schemas =>
      match r.product with
      | .schema => r.runSchema files schemas
      | .classes =>
        match sourcesOf schemas with
        | .error failure => .failed files failure
        | .ok sources => r.runClasses files sources

end Request

end Specimen.Command
