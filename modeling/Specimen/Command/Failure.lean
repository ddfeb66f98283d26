import Specimen.Failure
import Specimen.Files.Pattern

set_option autoImplicit false

/-! # Failures of runs

Why a run fails, and how that is worded: what was being done, then why it could not be done.
-/

namespace Specimen.Command

open Specimen.Files

/-- Why a run fails. -/
inductive RunFailure
  /-- A pattern for inputs is none. -/
  | badPattern (pattern : String) (fault : PatternFault)
  /-- A pattern for inputs matches nothing. -/
  | nothingMatched (pattern : String)
  /-- The root class is named, but there is not one input. -/
  | inputCount (count : Nat)
  /-- The path of an input leads to nothing with a name. -/
  | namelessInput (path : String)
  /-- The name of an input is no name for a class. -/
  | unsuitableName (failure : Failure)
  /-- An input cannot be read. -/
  | unreadable (path : String) (fault : Fault)
  /-- An input holds no sample. -/
  | noSample (path : String) (failure : Failure)
  /-- A sample has no schema. -/
  | noSchema (path : String) (failure : Failure)
  /-- A schema has no classes. -/
  | noClasses (path : String) (failure : Failure)
  /-- The directory of a result cannot be created. -/
  | noDirectory (path : String) (fault : Fault)
  /-- A result cannot be written. -/
  | unwritable (path : String) (fault : Fault)

/-- The steps of what was being done, and the reason why it could not be done. -/
def RunFailure.chain : RunFailure → List String
  | .badPattern pattern fault =>
    ["failed to resolve input file paths", s!"bad glob pattern: {pattern}", fault.message]
  | .nothingMatched pattern =>
    ["failed to resolve input file paths", s!"glob pattern matched no files: {pattern}"]
  | .inputCount count =>
    [s!"--root names exactly one input but {count} matched; use --package for several"]
  | .namelessInput path => [s!"cannot derive a class name from {path}"]
  | .unsuitableName failure => [failure.message]
  | .unreadable path fault =>
    [s!"failed to load {path}", s!"failed to read source file {path}", fault.message]
  | .noSample path failure => [s!"failed to load {path}", failure.message]
  | .noSchema path failure => [s!"inference failed for {path}", failure.message]
  | .noClasses path failure => [s!"failed to emit classes for {path}", failure.message]
  | .noDirectory path fault => [s!"failed to create {path}", fault.message]
  | .unwritable path fault => [s!"failed to write {path}", fault.message]

/-- The failure of an inference behind a failure. -/
def RunFailure.cause? : RunFailure → Option Failure
  | .unsuitableName failure => some failure
  | .noSample _ failure => some failure
  | .noSchema _ failure => some failure
  | .noClasses _ failure => some failure
  | _ => none

/-- A failure that has a wording. -/
def RunFailure.isWorded (f : RunFailure) : Bool := f.cause?.all Failure.isWorded

/-- The wording of a failure. -/
def RunFailure.message (f : RunFailure) : String := ": ".intercalate f.chain

end Specimen.Command
