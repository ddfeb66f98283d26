import Specimen.Command.Run
import Specimen.Proofs.Command.Inputs
import Specimen.Proofs.Java.Emission

set_option autoImplicit false

/-! # All inputs or nothing

A run goes through its inputs before it leaves anything behind: all of them are found, named, read
and typed, and the classes of all of them are put into words, before the first file is written or
the first line printed. `Request.IsReady` says that a run has come that far, and `Request.Loses`
says in which ways one input alone can keep it from coming there.

The two fit together (`Request.isReady_schemas_iff`): a run is ready exactly if none of its inputs
is lost and their number suits the naming. A run that is not ready leaves everything as it was, and
one that prints fails only if it is not ready, so an input that is lost leaves no trace of the
others (`Request.run_allOrNothing`).
-/

namespace Specimen.Command

open Specimen.Document Specimen.Files Specimen.Inference Specimen.Java

/-! ## Source files -/

theorem sourcesOf_cons_eq_ok_iff {entry : Input × Schema} {entries : List (Input × Schema)}
    {sources : List SourceFile} :
    sourcesOf (entry :: entries) = .ok sources ↔
      ∃ own others, SourceFile.ofRegistry entry.2.registry = .ok own ∧
        sourcesOf entries = .ok others ∧ own ++ others = sources := by
  obtain ⟨input, s⟩ := entry
  rw [sourcesOf]
  cases SourceFile.ofRegistry s.registry with
  | error f => simp
  | ok own => cases sourcesOf entries <;> simp [Except.map]

/-- Schemas have source files together exactly if each of them has. -/
theorem exists_sourcesOf_iff {entries : List (Input × Schema)} :
    (∃ sources, sourcesOf entries = .ok sources) ↔
      ∀ entry ∈ entries, ∃ sources, SourceFile.ofRegistry entry.2.registry = .ok sources := by
  induction entries with
  | nil => simp [sourcesOf]
  | cons entry entries ih =>
      rw [List.forall_mem_cons, ← ih]
      constructor
      · rintro ⟨sources, h⟩
        obtain ⟨own, others, hown, hothers, _⟩ := sourcesOf_cons_eq_ok_iff.mp h
        exact ⟨⟨own, hown⟩, others, hothers⟩
      · rintro ⟨⟨own, hown⟩, others, hothers⟩
        exact ⟨own ++ others, sourcesOf_cons_eq_ok_iff.mpr ⟨own, others, hown, hothers, rfl⟩⟩

namespace Request

variable {r : Request} {files : Tree}

/-! ## Runs that are ready -/

/-- What is asked for can be made of schemas: they are there, and so are the source files of their
classes if those are asked for. -/
def IsReady (r : Request) (schemas : Except RunFailure (List (Input × Schema))) : Prop :=
  ∃ entries, schemas = .ok entries ∧
    (r.product = .classes → ∃ sources, sourcesOf entries = .ok sources)

/-- The outcome once the inputs have been looked at. -/
def conclude (r : Request) (files : Tree) : Except RunFailure (List (Input × Schema)) → Outcome
  | .error failure => .failed files failure
  | .ok entries =>
    match r.product with
    | .schema => r.runSchema files entries
    | .classes =>
      match sourcesOf entries with
      | .error failure => .failed files failure
      | .ok sources => r.runClasses files sources

theorem run_eq_conclude (hdry : r.isDry = false) (files : Tree) :
    r.run files = r.conclude files (r.schemas files) := by
  rw [run, hdry, if_neg Bool.false_ne_true]
  cases r.schemas files <;> rfl

/-- A run that is not ready leaves everything as it was. -/
theorem conclude_of_not_isReady {schemas : Except RunFailure (List (Input × Schema))}
    (h : ¬ r.IsReady schemas) (files : Tree) :
    ∃ failure, r.conclude files schemas = .failed files failure := by
  cases schemas with
  | error failure => exact ⟨failure, rfl⟩
  | ok entries =>
      rw [conclude]
      cases hproduct : r.product with
      | schema =>
          refine absurd ⟨entries, rfl, fun hclasses => ?_⟩ h
          rw [hproduct] at hclasses
          cases hclasses
      | classes =>
          cases hsources : sourcesOf entries with
          | error failure => exact ⟨failure, rfl⟩
          | ok sources => exact absurd ⟨entries, rfl, fun _ => ⟨sources, hsources⟩⟩ h

/-- **A run that prints fails** exactly if it is not ready. -/
theorem failure_conclude_iff (houtput : r.output = none)
    {schemas : Except RunFailure (List (Input × Schema))} :
    (r.conclude files schemas).failure = none ↔ r.IsReady schemas := by
  constructor
  · intro hnone
    by_contra h
    obtain ⟨failure, hfailed⟩ := conclude_of_not_isReady h files
    rw [hfailed] at hnone
    cases hnone
  · rintro ⟨entries, rfl, hsources⟩
    rw [conclude]
    cases hproduct : r.product with
    | schema => simp only [runSchema, houtput, Outcome.quiet]
    | classes =>
        obtain ⟨sources, hsources⟩ := hsources hproduct
        simp only [hsources, runClasses, houtput, Outcome.quiet]

/-! ## Inputs that are lost -/

/-- What has been found and named comes to nothing. -/
inductive Spoils (r : Request) (files : Tree) (input : Input) : Prop
  /-- It cannot be read. -/
  | unread {fault : Fault} (h : files.read input.path.toList = .error fault)
  /-- Its text is no document of its format. -/
  | unparsed {text : String} {failure : Failure} (hread : files.read input.path.toList = .ok text)
      (h : Document.read text (r.formatOf input.path text) = .error failure)
  /-- The pointer or the filter selects no sample from it. -/
  | unselected {text : String} {v : Json.Value} {failure : Failure}
      (hread : files.read input.path.toList = .ok text)
      (hformat : r.formatOf input.path text = .json) (hparse : readJson text = .ok v)
      (h : select r.selection v = .error failure)
  /-- A part is asked for of something that has no parts to select. -/
  | unselectable {text : String} (hread : files.read input.path.toList = .ok text)
      (hformat : r.formatOf input.path text = .xml) (h : r.selection.isWhole = false)
  /-- Its sample has no schema. -/
  | untyped {text : String} {element : Element} {failure : Failure}
      (hread : files.read input.path.toList = .ok text)
      (hsample : r.sampleOf input.path text = .ok element)
      (h : infer r.options input.rootName element = .error failure)
  /-- Its classes are asked for, and cannot be written as source files. -/
  | unwritten {s : Schema} {failure : Failure} (hproduct : r.product = .classes)
      (hschema : r.schemaOf files input = .ok s)
      (h : SourceFile.ofRegistry s.registry = .error failure)

/-- An argument for an input comes to nothing, whatever becomes of the others. -/
inductive Loses (r : Request) (files : Tree) (argument : String) : Prop
  /-- It stands for no path. -/
  | unresolved {failure : RunFailure} (h : pathsOf files argument = .error failure)
  /-- It stands for a path after which no class can be named. -/
  | unnamed {paths : List String} {path : String} {failure : RunFailure}
      (hpaths : pathsOf files argument = .ok paths) (hpath : path ∈ paths)
      (h : inputAt r.naming path = .error failure)
  /-- It stands for an input that comes to nothing. -/
  | spoiled {paths : List String} {path : String} {input : Input}
      (hpaths : pathsOf files argument = .ok paths) (hpath : path ∈ paths)
      (hinput : inputAt r.naming path = .ok input) (h : r.Spoils files input)

/-- There is one name for the root class, but not one input. -/
def Miscounts (r : Request) (files : Tree) : Prop :=
  ∃ name paths, r.naming = .root name ∧ r.paths files = .ok paths ∧ paths.length ≠ 1

/-- A text has no sample exactly if it is no document of its format or nothing is selected from
it. -/
theorem sampleless_iff {path text : String} :
    (¬ ∃ element, r.sampleOf path text = .ok element) ↔
      (∃ failure, Document.read text (r.formatOf path text) = .error failure) ∨
        (∃ v failure, r.formatOf path text = .json ∧ readJson text = .ok v ∧
          select r.selection v = .error failure) ∨
        (r.formatOf path text = .xml ∧ r.selection.isWhole = false) := by
  simp only [sampleOf_eq_ok_iff]
  cases r.formatOf path text with
  | xml => cases r.selection.isWhole <;> cases hread : readXml text <;> simp [Document.read, hread]
  | json =>
      cases hparse : readJson text with
      | error failure => simp [Document.read, hparse, Except.map]
      | ok v =>
          cases hselect : select r.selection v <;>
            simp [Document.read, hparse, Except.map, hselect]

/-- An input comes to nothing unless it has a schema and, if classes are asked for, source
files. -/
theorem spoils_iff {input : Input} :
    r.Spoils files input ↔ ¬ ∃ s, r.schemaOf files input = .ok s ∧
      (r.product = .classes → ∃ sources, SourceFile.ofRegistry s.registry = .ok sources) := by
  constructor
  · rintro h ⟨s, hschema, hsources⟩
    obtain ⟨text, element, hread, hsample, hinfer⟩ := schemaOf_eq_ok_iff.mp hschema
    have hsampled := fun h => sampleless_iff.mpr h ⟨element, hsample⟩
    cases h with
    | unread h => cases hread.symm.trans h
    | unparsed hread' h =>
        cases hread.symm.trans hread'
        exact hsampled (.inl ⟨_, h⟩)
    | unselected hread' hformat hparse h =>
        cases hread.symm.trans hread'
        exact hsampled (.inr (.inl ⟨_, _, hformat, hparse, h⟩))
    | unselectable hread' hformat h =>
        cases hread.symm.trans hread'
        exact hsampled (.inr (.inr ⟨hformat, h⟩))
    | untyped hread' hsample' h =>
        cases hread.symm.trans hread'
        cases hsample.symm.trans hsample'
        cases hinfer.symm.trans h
    | unwritten hproduct hschema' h =>
        cases hschema.symm.trans hschema'
        obtain ⟨sources, hsources⟩ := hsources hproduct
        cases hsources.symm.trans h
  · intro hlost
    -- the stages in order: each either fails, which is one of the reasons, or leads to the next
    cases hread : files.read input.path.toList with
    | error fault => exact .unread hread
    | ok text =>
        by_cases hsample : ∃ element, r.sampleOf input.path text = .ok element
        · obtain ⟨element, hsample⟩ := hsample
          cases hinfer : infer r.options input.rootName element with
          | error failure => exact .untyped hread hsample hinfer
          | ok s =>
              have hschema : r.schemaOf files input = .ok s :=
                schemaOf_eq_ok_iff.mpr ⟨text, element, hread, hsample, hinfer⟩
              cases hsources : SourceFile.ofRegistry s.registry with
              | error failure =>
                  by_cases hproduct : r.product = .classes
                  · exact .unwritten hproduct hschema hsources
                  · exact absurd ⟨s, hschema, fun h => absurd h hproduct⟩ hlost
              | ok sources => exact absurd ⟨s, hschema, fun _ => ⟨sources, hsources⟩⟩ hlost
        · rcases sampleless_iff.mp hsample with ⟨failure, h⟩ | ⟨v, failure, hformat, hparse, h⟩ |
            ⟨hformat, h⟩
          · exact .unparsed hread h
          · exact .unselected hread hformat hparse h
          · exact .unselectable hread hformat h

/-- An argument is not lost exactly if it stands for paths of inputs that come to something. -/
theorem not_loses_iff {argument : String} :
    ¬ r.Loses files argument ↔ ∃ paths, pathsOf files argument = .ok paths ∧
      ∀ path ∈ paths, ∃ input, inputAt r.naming path = .ok input ∧ ¬ r.Spoils files input := by
  constructor
  · intro h
    cases hpaths : pathsOf files argument with
    | error failure => exact absurd (.unresolved hpaths) h
    | ok paths =>
        refine ⟨paths, rfl, fun path hpath => ?_⟩
        cases hinput : inputAt r.naming path with
        | error failure => exact absurd (.unnamed hpaths hpath hinput) h
        | ok input => exact ⟨input, rfl, fun hspoils => h (.spoiled hpaths hpath hinput hspoils)⟩
  · rintro ⟨paths, hpaths, hinputs⟩ h
    cases h with
    | unresolved h => cases hpaths.symm.trans h
    | unnamed hpaths' hpath h =>
        cases hpaths.symm.trans hpaths'
        obtain ⟨input, hinput, _⟩ := hinputs _ hpath
        cases hinput.symm.trans h
    | spoiled hpaths' hpath hinput' h =>
        cases hpaths.symm.trans hpaths'
        obtain ⟨input, hinput, hspoils⟩ := hinputs _ hpath
        cases hinput.symm.trans hinput'
        exact hspoils h

/-- What is asked for can be made of the inputs at some paths exactly if each of them is named and
comes to something, and if there is one for one name. -/
theorem isReady_schemasAt_iff {paths : List String} :
    r.IsReady (r.schemasAt files paths) ↔
      (∀ path ∈ paths, ∃ input, inputAt r.naming path = .ok input ∧ ¬ r.Spoils files input) ∧
        ∀ name, r.naming = .root name → paths.length = 1 := by
  simp only [spoils_iff, not_not]
  constructor
  · rintro ⟨entries, hentries, hsources⟩
    obtain ⟨hentries, hcount⟩ := schemasAt_eq_ok_iff.mp hentries
    refine ⟨fun path hpath => ?_, hcount⟩
    obtain ⟨entry, hentry, hinput, hschema⟩ := exists_of_forall₂_of_mem hentries.flip hpath
    exact ⟨entry.1, hinput, entry.2, hschema,
      fun hproduct => exists_sourcesOf_iff.mp (hsources hproduct) entry hentry⟩
  · rintro ⟨hall, hcount⟩
    -- what each path leads to is chosen together with its source files
    obtain ⟨entries, hentries⟩ : ∃ entries : List (Input × Schema),
        List.Forall₂ (fun path entry => (inputAt r.naming path = .ok entry.1 ∧
            r.schemaOf files entry.1 = .ok entry.2) ∧
          (r.product = .classes →
            ∃ sources, SourceFile.ofRegistry entry.2.registry = .ok sources)) paths entries := by
      refine exists_forall₂_iff.mpr fun path hpath => ?_
      obtain ⟨input, hinput, s, hschema, hsources⟩ := hall path hpath
      exact ⟨(input, s), ⟨hinput, hschema⟩, hsources⟩
    refine ⟨entries, schemasAt_eq_ok_iff.mpr ⟨hentries.imp fun _ _ h => h.1, hcount⟩,
      fun hproduct => exists_sourcesOf_iff.mpr fun entry hentry => ?_⟩
    obtain ⟨path, _, _, hsources⟩ := exists_of_forall₂_of_mem hentries hentry
    exact hsources hproduct

/-- **A run is ready** exactly if none of its inputs is lost and their number suits the naming. -/
theorem isReady_schemas_iff :
    r.IsReady (r.schemas files) ↔
      (∀ argument ∈ r.inputs, ¬ r.Loses files argument) ∧ ¬ r.Miscounts files := by
  rw [schemas_eq]
  simp only [not_loses_iff]
  -- either some argument stands for no path, or the paths of all of them are strung together
  cases hfound : r.inputs.mapM (pathsOf files) with
  | error failure =>
      have hpaths : r.paths files = .error failure := by rw [paths, hfound]; rfl
      rw [hpaths]
      constructor
      · rintro ⟨entries, h, _⟩
        cases h
      · rintro ⟨hall, _⟩
        obtain ⟨found, h⟩ := exists_mapM_eq_ok_iff.mpr fun argument hargument =>
          (hall argument hargument).imp fun paths h => h.1
        cases hfound.symm.trans h
  | ok found =>
      have hpaths : r.paths files = .ok found.flatten := by rw [paths, hfound]; rfl
      rw [hpaths]
      show r.IsReady (r.schemasAt files found.flatten) ↔ _
      rw [isReady_schemasAt_iff]
      refine and_congr ⟨fun hall argument hargument => ?_, fun hall path hpath => ?_⟩
        ⟨fun hcount => ?_, fun hcount name hname => ?_⟩
      · obtain ⟨own, hown, h⟩ := exists_mem_of_mapM hfound hargument
        exact ⟨own, h, fun path hpath => hall path (List.mem_flatten.mpr ⟨own, hown, hpath⟩)⟩
      · obtain ⟨own, hown, hpath⟩ := List.mem_flatten.mp hpath
        obtain ⟨argument, hargument, h⟩ := exists_of_mem_mapM hfound hown
        obtain ⟨own', h', hinputs⟩ := hall argument hargument
        cases h.symm.trans h'
        exact hinputs path hpath
      · rintro ⟨name, paths, hname, h, hlength⟩
        cases hpaths.symm.trans h
        exact hlength (hcount name hname)
      · by_contra hlength
        exact hcount ⟨name, _, hname, hpaths, hlength⟩

/-! ## Runs that fail -/

/-- **All inputs or nothing.** If one argument for an input comes to nothing, whatever the others
come to, or if their number does not suit the naming, the run fails, prints nothing and leaves the
files as they were. A run that is to print fails for no other reason, so it leaves everything as it
was whenever it fails. -/
theorem run_allOrNothing (hdry : r.isDry = false) (files : Tree) :
    ((∃ argument ∈ r.inputs, r.Loses files argument) ∨ r.Miscounts files →
      ∃ failure, r.run files = .failed files failure) ∧
    (r.output = none → ∀ failure, (r.run files).failure = some failure →
      r.run files = .failed files failure ∧
        ((∃ argument ∈ r.inputs, r.Loses files argument) ∨ r.Miscounts files)) := by
  rw [run_eq_conclude hdry]
  have hready : r.IsReady (r.schemas files) ↔
      ¬ ((∃ argument ∈ r.inputs, r.Loses files argument) ∨ r.Miscounts files) := by
    rw [isReady_schemas_iff, not_or, not_exists]
    exact and_congr_left' (forall_congr' fun _ => not_and.symm)
  constructor
  · exact fun h => conclude_of_not_isReady (fun hr => hready.mp hr h) files
  · intro houtput failure hfailure
    have hnot : ¬ r.IsReady (r.schemas files) := by
      intro hr
      rw [(failure_conclude_iff houtput).mpr hr] at hfailure
      cases hfailure
    obtain ⟨failure', hfailed⟩ := conclude_of_not_isReady hnot files
    rw [hfailed] at hfailure ⊢
    cases hfailure
    exact ⟨rfl, not_not.mp fun h => hnot (hready.mpr h)⟩

end Request

/-- A request for all of some inputs, in a package. -/
def plainRequest (product : Product) (inputs : List String) (output : Option String) : Request where
  product := product
  inputs := inputs
  format := none
  selection := ⟨none, none⟩
  naming := .package "p"
  options := .standard
  output := output
  isDry := false

/-- A request for the classes of two inputs. -/
def pairRequest (output : Option String) : Request :=
  plainRequest .classes ["r.json", "s.json"] output

/-- An object with a member that has no name. -/
def namelessObject : String := "\x7b\"\":\x7b\x7d\x7d"

/-- A directory with two inputs, the second of which has no schema. -/
def halfNamelessFiles : Tree :=
  ⟨[(Location.here.child "r.json".toList, .file (.text ownedObject)),
    (Location.here.child "s.json".toList, .file (.text namelessObject))]⟩

theorem not_loses_owned (output : Option String) :
    ¬ (pairRequest output).Loses halfNamelessFiles "r.json" := by
  have hschema : (pairRequest output).schemaOf halfNamelessFiles ⟨"r.json", "p.R"⟩
      = .ok ownedSchema :=
    (schemaOf_eq_ok_iff_generate rfl).mpr ⟨ownedObject, rfl, generate_ownedObject⟩
  refine Request.not_loses_iff.mpr ⟨["r.json"], rfl, fun path hpath => ?_⟩
  obtain rfl := List.mem_singleton.mp hpath
  refine ⟨⟨"r.json", "p.R"⟩, rfl, fun h => Request.spoils_iff.mp h ?_⟩
  exact ⟨ownedSchema, hschema, fun _ => ⟨_, ofRegistry_ownedSchema⟩⟩

theorem loses_nameless (output : Option String) :
    (pairRequest output).Loses halfNamelessFiles "s.json" := by
  have hread : halfNamelessFiles.read "s.json".toList = .ok namelessObject := rfl
  have hparse : readJson namelessObject = .ok (.object [("", .object [])]) := by
    rw [readJson, show Json.read namelessObject = .ok (.object [("", .object [])]) from
      Json.read_emptyMember rfl (by simp)]
    rfl
  have hsample : (pairRequest output).sampleOf "s.json" namelessObject
      = .ok (.ofJson (.object [("", .object [])])) := by
    rw [sampleOf_of_isWhole rfl]
    show (readJson namelessObject).map _ = _
    rw [hparse]
    rfl
  have hinfer : infer .standard "p.S" (.ofJson (.object [("", .object [])])) = .error .emptyName :=
    rfl
  have hspoils : (pairRequest output).Spoils halfNamelessFiles ⟨"s.json", "p.S"⟩ :=
    .untyped hread hsample hinfer
  have hpaths : Request.pathsOf halfNamelessFiles "s.json" = .ok ["s.json"] := rfl
  exact .spoiled hpaths List.mem_cons_self rfl hspoils

/-- The first input has classes, but neither written nor printed, because the second has none. -/
theorem run_allOrNothing_pair :
    (¬ (pairRequest (some "out")).Loses halfNamelessFiles "r.json" ∧
      ∃ failure, (pairRequest (some "out")).run halfNamelessFiles
        = .failed halfNamelessFiles failure) ∧
    ∃ failure, ((pairRequest none).run halfNamelessFiles).failure = some failure ∧
      (pairRequest none).run halfNamelessFiles = .failed halfNamelessFiles failure := by
  have hlost : ∀ output, ∃ argument ∈ (pairRequest output).inputs,
      (pairRequest output).Loses halfNamelessFiles argument :=
    fun output => ⟨"s.json", List.mem_cons_of_mem _ List.mem_cons_self, loses_nameless output⟩
  have hwrite := @Request.run_allOrNothing (pairRequest (some "out")) rfl halfNamelessFiles
  have hprint := @Request.run_allOrNothing (pairRequest none) rfl halfNamelessFiles
  refine ⟨⟨not_loses_owned _, hwrite.1 (.inl (hlost _))⟩, ?_⟩
  obtain ⟨failure, hfailed⟩ := hprint.1 (.inl (hlost _))
  have hfailure : ((pairRequest none).run halfNamelessFiles).failure = some failure := by
    rw [hfailed]
    rfl
  exact ⟨failure, hfailure, (hprint.2 rfl failure hfailure).1⟩

end Specimen.Command
