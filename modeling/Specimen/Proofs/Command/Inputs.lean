import Specimen.Command.Inputs
import Specimen.Proofs.Document.Trees

set_option autoImplicit false

/-! # What the inputs of a request come to

If all inputs of a request have schemas, then each of them has a sample, which is a document of one
of the formats whatever part of the input it is, and its schema is inferred from the sample under
the input's root name. In a request for a package, that name is put together from the package and
the capitalized stem of the input's file (`exists_of_mem_schemas`).

Finding the inputs comes first. What is made of those that are found depends on their paths only
(`Request.schemasAt`), and it succeeds exactly if it does so for each of them
(`Request.schemasAt_eq_ok_iff`).
-/

namespace Specimen.Command

open Specimen.Document Specimen.Inference Specimen.Path

/-- A text has a sample exactly if it is a document of its format and the sample is selected from
it, which for an XML document means that all of it is the sample. -/
theorem sampleOf_eq_ok_iff {r : Request} {path text : String} {element : Element} :
    r.sampleOf path text = .ok element ↔
      (r.formatOf path text = .xml ∧ r.selection.isWhole = true ∧ readXml text = .ok element) ∨
        (r.formatOf path text = .json ∧ ∃ v part, readJson text = .ok v ∧
          Request.select r.selection v = .ok part ∧ Element.ofJson part = element) := by
  rw [Request.sampleOf]
  cases r.formatOf path text with
  | xml => cases r.selection.isWhole <;> simp
  | json =>
      simp only [map_eq_ok_iff, bind_eq_ok_iff, reduceCtorEq, false_and, false_or, true_and]
      constructor
      · rintro ⟨part, ⟨v, hv, hselect⟩, hpart⟩
        exact ⟨v, part, hv, hselect, hpart⟩
      · rintro ⟨v, part, hv, hselect, hpart⟩
        exact ⟨part, ⟨v, hv, hselect⟩, hpart⟩

/-- A sample is a document of one of the formats. -/
theorem exists_isTreeOf_of_sampleOf {r : Request} {path text : String} {element : Element}
    (h : r.sampleOf path text = .ok element) : ∃ format, element.IsTreeOf format := by
  rcases sampleOf_eq_ok_iff.mp h with ⟨_, _, hread⟩ | ⟨_, _, part, _, _, rfl⟩
  · exact ⟨.xml, isTreeOf_of_readXml hread⟩
  · exact ⟨.json, Element.isTreeOf_ofJson part⟩

/-- An input has a schema exactly if it can be read, its text has a sample, and the schema is that
of the sample. -/
theorem schemaOf_eq_ok_iff {r : Request} {files : Files.Tree} {input : Input} {s : Schema} :
    r.schemaOf files input = .ok s ↔
      ∃ text element, files.read input.path.toList = .ok text ∧
        r.sampleOf input.path text = .ok element ∧
        infer r.options input.rootName element = .ok s := by
  constructor
  · intro h
    unfold Request.schemaOf at h
    split at h
    · cases h
    · next text hread =>
        split at h
        · cases h
        · next element hsample =>
            exact ⟨text, element, hread, hsample, exists_of_mapError_eq_ok h⟩
  · rintro ⟨text, element, hread, hsample, hinfer⟩
    simp only [Request.schemaOf, hread, hsample, hinfer]
    rfl

/-- The sample in a text that is not taken apart is the document. -/
theorem sampleOf_of_isWhole {r : Request} (hwhole : r.selection.isWhole = true)
    (path text : String) : r.sampleOf path text = Document.read text (r.formatOf path text) := by
  have hselect : ∀ v, Request.select r.selection v = .ok v := by
    intro v
    rw [Selection.isWhole, Bool.and_eq_true, Option.isNone_iff_eq_none,
      Option.isNone_iff_eq_none] at hwhole
    rw [Request.select, hwhole.1, hwhole.2]
    rfl
  rw [Request.sampleOf]
  cases r.formatOf path text with
  | xml =>
      rw [if_pos hwhole]
      rfl
  | json => cases hread : readJson text <;> simp [Document.read, hread, Except.bind, hselect]

/-- The schema of an input that is not taken apart is that of its text. -/
theorem schemaOf_eq_ok_iff_generate {r : Request} (hwhole : r.selection.isWhole = true)
    {files : Files.Tree} {input : Input} {s : Schema} :
    r.schemaOf files input = .ok s ↔
      ∃ text, files.read input.path.toList = .ok text ∧
        generate r.options input.rootName text (r.formatOf input.path text) = .ok s := by
  simp only [schemaOf_eq_ok_iff, sampleOf_of_isWhole hwhole, generate, bind_eq_ok_iff,
    exists_and_left]

/-- The schema of an input is that of a document. -/
theorem exists_infer_of_schemaOf {r : Request} {files : Files.Tree} {input : Input} {s : Schema}
    (h : r.schemaOf files input = .ok s) :
    ∃ format element, element.IsTreeOf format ∧ infer r.options input.rootName element = .ok s := by
  obtain ⟨text, element, _, hsample, hinfer⟩ := schemaOf_eq_ok_iff.mp h
  obtain ⟨format, htree⟩ := exists_isTreeOf_of_sampleOf hsample
  exact ⟨format, element, htree, hinfer⟩

/-- An input in a package is named after its file. -/
theorem inputIn_eq_ok_iff {package path : String} {input : Input} :
    Request.inputIn package path = .ok input ↔
      ∃ stem name, stem? path.toList = some stem ∧ capitalize (String.ofList stem) = .ok name ∧
        input = ⟨path, qualify package name⟩ := by
  rw [Request.inputIn]
  cases stem? path.toList with
  | none => simp
  | some stem => cases hname : capitalize (String.ofList stem) <;> simp [hname, eq_comm]

/-! ## Inputs that have been found -/

/-- The input at a path, whatever the other inputs are. -/
def inputAt (naming : Naming) (path : String) : Except RunFailure Input :=
  match naming with
  | .root name => .ok ⟨path, name⟩
  | .package package => Request.inputIn package path

/-- Inputs are named together exactly if each of them is, and if there is one for one name. -/
theorem inputsAt_eq_ok_iff {naming : Naming} {paths : List String} {inputs : List Input} :
    Request.inputsAt naming paths = .ok inputs ↔
      paths.mapM (inputAt naming) = .ok inputs ∧
        ∀ name, naming = .root name → paths.length = 1 := by
  cases naming with
  | package package =>
      refine (and_iff_left ?_).symm
      rintro name h
      cases h
  | root name =>
      match paths with
      | [] => simp [Request.inputsAt]
      | [path] =>
          refine (and_iff_left ?_).symm
          exact fun _ _ => rfl
      | _ :: _ :: _ => simp [Request.inputsAt]

namespace Request

variable {r : Request} {files : Files.Tree}

/-- The schemas of the inputs at some paths. -/
def schemasAt (r : Request) (files : Files.Tree) (paths : List String) :
    Except RunFailure (List (Input × Schema)) :=
  (inputsAt r.naming paths).bind fun inputs =>
    inputs.mapM fun input => (r.schemaOf files input).map (input, ·)

theorem schemas_eq (r : Request) (files : Files.Tree) :
    r.schemas files = (r.paths files).bind (r.schemasAt files) := by
  rw [schemas, inputFiles]
  cases r.paths files <;> rfl

/-- **Inputs have schemas together** exactly if each path leads to one, and if there is one for one
name. -/
theorem schemasAt_eq_ok_iff {paths : List String} {entries : List (Input × Schema)} :
    r.schemasAt files paths = .ok entries ↔
      List.Forall₂ (fun path entry => inputAt r.naming path = .ok entry.1 ∧
        r.schemaOf files entry.1 = .ok entry.2) paths entries ∧
      ∀ name, r.naming = .root name → paths.length = 1 := by
  have hentry : ∀ (input : Input) (entry : Input × Schema),
      (r.schemaOf files input).map (input, ·) = .ok entry ↔
        r.schemaOf files entry.1 = .ok entry.2 ∧ input = entry.1 := by
    rintro input ⟨input', s⟩
    rw [map_eq_ok_iff]
    constructor
    · rintro ⟨s', hs, heq⟩
      cases heq
      exact ⟨hs, rfl⟩
    · rintro ⟨hs, rfl⟩
      exact ⟨s, hs, rfl⟩
  rw [schemasAt, bind_eq_ok_iff]
  simp only [inputsAt_eq_ok_iff, mapM_eq_ok_iff, hentry, and_right_comm, exists_and_right,
    exists_forall₂_forall₂_iff, exists_eq_right_right]

end Request

/-- The inputs of a request for a package are named after their files, and have schemas. -/
theorem exists_of_mem_schemas {r : Request} {files : Files.Tree} {package : String}
    (hnaming : r.naming = .package package) {schemas : List (Input × Schema)}
    (h : r.schemas files = .ok schemas) {entry : Input × Schema} (hentry : entry ∈ schemas) :
    (∃ stem name, stem? entry.1.path.toList = some stem ∧
        capitalize (String.ofList stem) = .ok name ∧ entry.1.rootName = qualify package name) ∧
      r.schemaOf files entry.1 = .ok entry.2 := by
  rw [Request.schemas_eq] at h
  obtain ⟨paths, _, h⟩ := exists_of_bind_eq_ok h
  obtain ⟨path, _, hinput, hschema⟩ :=
    exists_of_forall₂_of_mem (Request.schemasAt_eq_ok_iff.mp h).1 hentry
  rw [hnaming] at hinput
  obtain ⟨stem, name, hstem, hname, heq⟩ := inputIn_eq_ok_iff.mp hinput
  exact ⟨⟨stem, name, by rwa [heq], hname, by rw [heq]⟩, hschema⟩

end Specimen.Command
