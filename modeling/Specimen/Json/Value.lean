import Specimen.Number.Binary64

set_option autoImplicit false

/-! # JSON values

The tree of a JSON document. Objects are lists of members in document order; writing a member
into an object (`insertMember`) keeps the place of a name that is already there, so an object
that is built by insertion has no name twice. Integers of up to 64 bits are kept apart from
the other numbers, which are binary64.
-/

namespace Specimen.Json

open Specimen.Number

/-- A JSON number. -/
inductive Number
  /-- A whole number of at most 64 bits that was written without fraction and exponent. -/
  | integer (value : Int)
  /-- Any other number. -/
  | float (value : Binary64)
  deriving DecidableEq

/-- The binary64 number of a JSON number: integers go to the nearest one. -/
def Number.toBinary64 : Number → Binary64
  | .integer i => Binary64.ofInt i
  | .float x => x

/-- A JSON value. -/
inductive Value
  | null
  | bool (value : Bool)
  | number (value : Number)
  | text (value : String)
  | array (items : List Value)
  | object (members : List (String × Value))

/-- Writes a member into an object: a name that is there keeps its place and takes the new
value, any other name goes to the end. -/
def insertMember (members : List (String × Value)) (name : String) (value : Value) :
    List (String × Value) :=
  match members with
  | [] => [(name, value)]
  | (n, v) :: r => if n = name then (n, value) :: r else (n, v) :: insertMember r name value

/-- The object that a sequence of members builds. -/
def Value.ofMembers (members : List (String × Value)) : Value :=
  .object (members.foldl (fun done m => insertMember done m.1 m.2) [])

end Specimen.Json
