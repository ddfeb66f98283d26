import Specimen.Document.Read
import Specimen.Inference.Builder
import Specimen.Schema.Merge

set_option autoImplicit false

/-! # Inferring schemas

The schema of a document tree (`infer`) or of the text of a document (`generate`), whose root
class is given by its qualified name. Of several reasons to fail, the text comes first, then the
name of the root class, then the document.
-/

namespace Specimen.Inference

open Specimen.Document Specimen.Schema

/-- What an inference can be asked for. -/
structure Options where
  /-- How the strings of JSON documents are typed. -/
  stringTyping : StringTyping
  /-- Identical classes are merged. -/
  merges : Bool
  deriving DecidableEq

/-- Strings are strings, and classes stay apart. -/
def Options.standard : Options := ⟨.literal, false⟩

/-- The schema of a document tree with every class that was registered. -/
def run (options : Options) (rootName : String) (element : Element) : Except Failure Schema :=
  match splitRoot rootName with
  | .error f => .error f
  | .ok (package, name) =>
    match build options.stringTyping package name element Keyed.empty with
    | (.error f, _) => .error f
    | (.ok root, registry) => .ok ⟨root, registry⟩

/-- The schema of a document tree. -/
def infer (options : Options) (rootName : String) (element : Element) : Except Failure Schema :=
  (run options rootName element).map fun s => if options.merges then s.merge else s

/-- The schema of a document. -/
def generate (options : Options) (rootName text : String) (format : Format) :
    Except Failure Schema :=
  (Document.read text format).bind (infer options rootName)

end Specimen.Inference
