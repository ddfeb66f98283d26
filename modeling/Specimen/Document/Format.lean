import Specimen.Path
import Specimen.Text.Blank

set_option autoImplicit false

/-! # Document formats

The formats of sample documents, and how the format of a document is found out: from the
extension of its file's name or from its first character.
-/

namespace Specimen.Document

open Specimen.Text

/-- A document format. -/
inductive Format
  | json
  | xml
  deriving DecidableEq

namespace Format

/-- The format of a text: XML if its first character behind white space is `<`. -/
def detect (text : String) : Format :=
  if (trimStart text.toList).head? = some '<' then .xml else .json

/-- The format that the extension of a file's name stands for, in letters of either case. -/
def ofPath? (path : String) : Option Format :=
  match Path.extension? path.toList with
  | none => none
  | some extension =>
    let lower := extension.map Char.toLower
    if lower = ['j', 's', 'o', 'n'] then some .json
    else if lower = ['x', 'm', 'l'] then some .xml
    else none

end Format

end Specimen.Document
