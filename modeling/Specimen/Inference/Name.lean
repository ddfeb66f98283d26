import Specimen.Failure
import Specimen.Text.Segments
import Specimen.Text.UpperCase

set_option autoImplicit false

/-! # Class names

How classes are named: after the field that holds them with its first character in upper case,
after the singular of the name of the list that holds them, and qualified by a package. A
qualified name is split at its last point, which undoes the qualification by a package of a
simple name without points.
-/

namespace Specimen.Inference

open Specimen.Text

/-- A name with its first character in upper case, in full. -/
def capitalize (name : String) : Except Failure String :=
  match name.toList with
  | [] => .error .emptyName
  | c :: r => .ok (String.ofList (upperCase c ++ r))

/-- The ending of plurals whose singular ends in `y`. -/
def iesEnding : List Char := ['i', 'e', 's']

/-- The singular of a name: `ies` at its end becomes `y`, any other `s` at its end is dropped
unless nothing would be left. -/
def singular (name : String) : String :=
  let reversed := name.toList.reverse
  if iesEnding.reverse.isPrefixOf reversed then
    String.ofList ('y' :: reversed.drop 3).reverse
  else
    match reversed with
    | 's' :: c :: r => String.ofList (c :: r).reverse
    | _ => name

/-- The qualified name of a class in a package. -/
def qualify (package simpleName : String) : String := package ++ "." ++ simpleName

/-- The package and the simple name of a qualified name. A name without a point lies in the
package without a name. -/
def splitQualified (name : String) : String × String :=
  match splitAtLast '.' name.toList with
  | some (package, simple) => (String.ofList package, String.ofList simple)
  | none => ("", name)

/-- The package and the simple name of a root class, both of which have to be there. -/
def splitRoot (name : String) : Except Failure (String × String) :=
  match splitAtLast '.' name.toList with
  | none => .error (.rootWithoutPackage name)
  | some (package, simple) =>
    if package.isEmpty || simple.isEmpty then .error (.rootWithEmptyPart name)
    else .ok (String.ofList package, String.ofList simple)

end Specimen.Inference
