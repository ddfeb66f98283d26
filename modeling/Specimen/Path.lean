import Specimen.Text.Segments

set_option autoImplicit false

/-! # File paths

Paths are texts whose parts are separated by slashes. Empty parts and parts that are a single
point do not count; a part of two points leads to the parent directory and names no file. This
file defines the parts of a path, the name of the file it leads to, that name's stem and
extension, the joining of paths, and what paths are compared by.
-/

namespace Specimen.Path

open Specimen.Text

/-- The part that leads to the parent directory. -/
def parent : List Char := ['.', '.']

/-- A part that leads nowhere. -/
def isEmptyPart (part : List Char) : Bool := part == [] || part == ['.']

/-- The parts of a path that lead somewhere. -/
def parts (path : List Char) : List (List Char) :=
  (segments '/' path).filter fun part => !isEmptyPart part

/-- The path starts at the root directory. -/
def isAbsolute (path : List Char) : Bool := path.head? == some '/'

/-- The name of the file or directory that a path leads to, if its last part is a name. -/
def fileName? (path : List Char) : Option (List Char) :=
  match (parts path).getLast? with
  | some part => if part = parent then none else some part
  | none => none

/-- A file name without its extension, and its extension. A point in front of the name does not
start an extension. -/
def splitName (name : List Char) : List Char × Option (List Char) :=
  match splitAtLast '.' name with
  | some ([], _) => (name, none)
  | some (stem, extension) => (stem, some extension)
  | none => (name, none)

/-- The extension of the file that a path leads to. -/
def extension? (path : List Char) : Option (List Char) :=
  (fileName? path).bind fun name => (splitName name).2

/-- The name, without its extension, of the file that a path leads to. -/
def stem? (path : List Char) : Option (List Char) :=
  (fileName? path).map fun name => (splitName name).1

/-- A path continued by another: an absolute path replaces what precedes it; otherwise a slash
is written between the two unless the first is empty or ends in one. -/
def join (path next : List Char) : List Char :=
  if isAbsolute next then next
  else if path.isEmpty || path.getLast? == some '/' then path ++ next
  else path ++ '/' :: next

/-- Where a path starts, if that counts: at the root directory or at a single point. -/
def start (path : List Char) : List (List Char) :=
  if isAbsolute path then [['/']]
  else if (segments '/' path).head? = some ['.'] then [['.']]
  else []

/-- What paths are compared by: where they start and their parts. -/
def components (path : List Char) : List (List Char) := start path ++ parts path

/-- The segments in front of a path's last part, without those at their end that do not count. -/
def leadingSegments (path : List Char) : List (List Char) :=
  let reversed := (segments '/' path).reverse.dropWhile isEmptyPart
  (reversed.tail.dropWhile isEmptyPart).reverse

/-- The path of the directory that holds what a path leads to: the path without its last part.
A path without parts has none, except for a single point. -/
def directory? (path : List Char) : Option (List Char) :=
  if (parts path).isEmpty then
    if start path = [['.']] then some [] else none
  else
    match leadingSegments path with
    | [] => some (start path).flatten
    | kept => some (List.intercalate ['/'] kept)

end Specimen.Path
