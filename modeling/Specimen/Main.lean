import Specimen.Command.Arguments
import Specimen.Command.Run

set_option autoImplicit false

/-! # The program

Reads the arguments and the files that they name, runs the request, writes what has changed and
prints what is to be printed.
-/

namespace Specimen.Program

open Specimen.Files Specimen.Command

/-! ## Texts -/

/-- How the program is used. -/
def usage : String := String.join
  ["Usage: specimen [-v] classes|schema -i INPUT... (--root NAME | --package NAME)\n",
    "    [--format auto|json|xml] [--json-pointer POINTER] [--jq-expr FILTER]\n",
    "    [--sniff-strings] [--dedupe] [-o PATH] [--no-op]\n"]

/-- The name and the version of the program. -/
def versionLine : String := "specimen 0.1.0\n"

/-- What is told about arguments that make up no request. -/
def argumentText : ArgumentFault → String
  | .help => usage
  | .version => versionLine
  | .nothingGiven => usage
  | .missingCommand => "error: a command is required\n"
  | .unknownCommand => "error: there is no such command\n"
  | .missingOption => "error: a required option is missing\n"
  | .invalidValue => "error: an option has no proper value\n"
  | .unexpectedValue => "error: an option takes no value\n"
  | .conflict => "error: options cannot be used together\n"
  | .unknownArgument => "error: there is no such option\n"

/-! ## Files -/

/-- The most directories below one another that are searched for inputs. -/
def searchDepth : Nat := 32

/-- The entries of a directory; none if it cannot be read. -/
def entriesOf (entry : IO.FS.DirEntry) : IO (Array IO.FS.DirEntry) :=
  try entry.path.readDir catch _ => return #[]

/-- A tree with the names of files and directories, up to a depth. -/
def addNames : Nat → Location → Array IO.FS.DirEntry → Tree → IO Tree
  | 0, _, _, t => return t
  | depth + 1, l, entries, t =>
    entries.foldlM
      (fun t entry => do
        let place := l.child entry.fileName.toList
        if ← entry.path.isDir then
          addNames depth place (← entriesOf entry) (t.put place .directory)
        else return t.put place (.file .binary))
      t

/-- A tree with what the file at a path holds. -/
def addContents (t : Tree) (path : String) : IO Tree := do
  try
    let bytes ← IO.FS.readBinFile path
    return t.place path.toList (.file (.ofBytes bytes))
  catch _ => return t

/-- The tree of the working directory, with what the inputs hold. -/
def readTree (request : Request) : IO Tree := do
  let names ← addNames searchDepth .here (← (← IO.currentDir).readDir) Tree.empty
  match request.paths names with
  | .error _ => return names
  | .ok paths => paths.foldlM addContents names

/-- Writes a text to a file, whose directory is created. -/
def writeText (place : Location) (text : String) : IO Unit := do
  let directory := (Path.directory? place.path).getD []
  unless directory.isEmpty do
    IO.FS.createDirAll (String.ofList directory)
  IO.FS.writeFile (String.ofList place.path) text

/-! ## Running -/

/-- Runs a request. -/
def perform (request : Request) : IO UInt32 := do
  let files ← readTree request
  let outcome := request.run files
  for (place, text) in files.changes outcome.files do
    writeText place text
  IO.print outcome.output
  IO.eprint outcome.messages
  return outcome.exitCode.toUInt32

/-- Runs the program. -/
def run (arguments : List String) : IO UInt32 := do
  match Request.ofArguments arguments with
  | .error fault =>
    if fault.isAnswer then IO.print (argumentText fault) else IO.eprint (argumentText fault)
    return fault.exitCode.toUInt32
  | .ok request => perform request

end Specimen.Program

/-- The program. -/
def main (arguments : List String) : IO UInt32 := Specimen.Program.run arguments
