import Specimen.Document.Read
import Specimen.Filter.Reader

set_option autoImplicit false

/-! # Running filters

The results of a filter for a JSON value. Each result is written and read again, so a number
that no JSON document can hold is refused here; the first result that fails ends the run. A filter
outside the part of the language that is read (see `Specimen.Filter.Reader`) ends it too, with
`filterFailure`.
-/

namespace Specimen.Filter

/-- The JSON value of a result. -/
def valueOf : Result → Except Failure Json.Value
  | none => .error .filterFailure
  | some d => (Json.read (String.ofList d.toText)).mapError fun _ => .filterResult

/-- The results of a filter for a value. -/
def run (filter : String) (input : Json.Value) : Except Failure (List Json.Value) :=
  match Expression.ofText? filter with
  | none => .error .filterFailure
  | some e => (e.results (Datum.ofJson input)).mapM valueOf

/-- The only result of a filter for a value. -/
def runOne (filter : String) (input : Json.Value) : Except Failure Json.Value :=
  match run filter input with
  | .error f => .error f
  | .ok [v] => .ok v
  | .ok vs => .error (.filterResultCount filter vs.length)

end Specimen.Filter
