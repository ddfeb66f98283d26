import Specimen.Proofs.Command.Readiness

set_option autoImplicit false

/-! # Inputs do not influence each other

In a request for a package, what a run makes of several inputs is put together from what it makes
of each of them alone: it succeeds exactly if it succeeds for each, the schemas are those of the
single inputs in order, and their classes are printed for one input after the other
(`Request.runAt_batch`). This is so because each input has a schema of its own: stems that are
repeated and classes that share a name meet only where files are written.

An input that is not taken apart is treated as its text: it has a schema exactly if its text has
that schema under the root name of the input (`Request.generates_ok_iff`), although a run reads
its samples in its own way.

All of it depends on the paths that the inputs of a request stand for, so the results speak of
paths (`Request.runAt`), which may have been found by patterns.
-/

namespace Specimen.Command

open Specimen.Document Specimen.Files Specimen.Inference Specimen.Java

namespace Request

variable {r : Request} {files : Tree} {package : String}

/-- The outcome for the inputs at some paths. -/
def runAt (r : Request) (files : Tree) (paths : List String) : Outcome :=
  r.conclude files (r.schemasAt files paths)

/-- What inputs come to depends on the paths that they stand for. -/
theorem run_eq_runAt (hdry : r.isDry = false) {paths : List String}
    (hpaths : r.paths files = .ok paths) : r.run files = r.runAt files paths := by
  rw [run_eq_conclude hdry, schemas_eq, hpaths]
  rfl

/-! ## Results of single inputs -/

/-- An input of a request for a package is the one at a path, and its text, typed on its own under
the input's root name, gives a result. -/
def Generates (r : Request) (files : Tree) (package path : String) (input : Input)
    (result : Except Failure Schema) : Prop :=
  ∃ text stem name, files.read path.toList = .ok text ∧ Path.stem? path.toList = some stem ∧
    capitalize (String.ofList stem) = .ok name ∧ input = ⟨path, qualify package name⟩ ∧
    generate r.options input.rootName text
      (r.format.getD ((Format.ofPath? path).getD (Format.detect text))) = result

theorem Generates.inputIn_eq {path : String} {input : Input} {result : Except Failure Schema}
    (h : r.Generates files package path input result) : inputIn package path = .ok input := by
  obtain ⟨_, stem, name, _, hstem, hname, hinput, _⟩ := h
  exact inputIn_eq_ok_iff.mpr ⟨stem, name, hstem, hname, hinput⟩

/-- **The schema of an input** is that of its text, and if there is none, the reason is the same
and is told with the input's path. -/
theorem Generates.schemaOf_eq (hwhole : r.selection.isWhole = true) {path : String} {input : Input}
    {result : Except Failure Schema} (h : r.Generates files package path input result) :
    ∃ wrap : Failure → RunFailure, (∀ f, (wrap f).cause? = some f) ∧
      r.schemaOf files input = result.mapError wrap := by
  obtain ⟨text, stem, name, hread, _, _, rfl, rfl⟩ := h
  simp only [schemaOf, hread, sampleOf_of_isWhole hwhole, generate, formatOf]
  cases Document.read text (r.format.getD ((Format.ofPath? path).getD (Format.detect text))) with
  | error f => exact ⟨.noSample path, fun _ => rfl, rfl⟩
  | ok element => exact ⟨.noSchema path, fun _ => rfl, rfl⟩

/-- The input at a path has a schema exactly if its text, typed on its own, has that schema. -/
theorem generates_ok_iff (hwhole : r.selection.isWhole = true) {path : String} {input : Input}
    {s : Schema} :
    r.Generates files package path input (.ok s) ↔
      inputIn package path = .ok input ∧ r.schemaOf files input = .ok s := by
  constructor
  · intro h
    obtain ⟨wrap, _, hschema⟩ := h.schemaOf_eq hwhole
    exact ⟨h.inputIn_eq, hschema⟩
  · rintro ⟨hinput, hschema⟩
    obtain ⟨stem, name, hstem, hname, rfl⟩ := inputIn_eq_ok_iff.mp hinput
    obtain ⟨text, hread, hgenerate⟩ := (schemaOf_eq_ok_iff_generate hwhole).mp hschema
    exact ⟨text, stem, name, hread, hstem, hname, rfl, hgenerate⟩

theorem Generates.schemasAt_eq_error (hnaming : r.naming = .package package)
    (hwhole : r.selection.isWhole = true) {path : String} {input : Input} {f : Failure}
    (h : r.Generates files package path input (.error f)) :
    ∃ failure, r.schemasAt files [path] = .error failure ∧ failure.cause? = some f := by
  obtain ⟨wrap, hwrap, hschema⟩ := h.schemaOf_eq hwhole
  have hinputs : inputsAt r.naming [path] = .ok [input] := by
    rw [hnaming, inputsAt, List.mapM_cons, h.inputIn_eq]
    rfl
  refine ⟨wrap f, ?_, hwrap f⟩
  rw [schemasAt, hinputs]
  show List.mapM _ [input] = _
  rw [List.mapM_cons, hschema]
  rfl

/-! ## Batches -/

theorem schemasAt_package_eq_ok_iff (hnaming : r.naming = .package package) {paths : List String}
    {entries : List (Input × Schema)} :
    r.schemasAt files paths = .ok entries ↔
      List.Forall₂ (fun path entry => inputIn package path = .ok entry.1 ∧
        r.schemaOf files entry.1 = .ok entry.2) paths entries := by
  rw [schemasAt_eq_ok_iff, hnaming]
  refine and_iff_left fun name h => ?_
  cases h

theorem isReady_batch_iff (hnaming : r.naming = .package package) {paths : List String} :
    r.IsReady (r.schemasAt files paths) ↔ ∀ path ∈ paths, r.IsReady (r.schemasAt files [path]) := by
  simp only [isReady_schemasAt_iff, hnaming, List.mem_singleton, forall_eq, reduceCtorEq,
    IsEmpty.forall_iff, implies_true, and_true]

theorem output_runAt_of_classes (hproduct : r.product = .classes) (houtput : r.output = none)
    {paths : List String} {entries : List (Input × Schema)} {sources : List SourceFile}
    (hentries : r.schemasAt files paths = .ok entries)
    (hsources : sourcesOf entries = .ok sources) :
    (r.runAt files paths).output = String.join (sources.map listing) := by
  simp only [runAt, hentries, conclude, hproduct, hsources, runClasses, houtput]

/-- **The classes of several inputs** are printed for one input after the other. -/
theorem output_batch (hnaming : r.naming = .package package) (hproduct : r.product = .classes)
    (houtput : r.output = none) {paths : List String}
    (hready : r.IsReady (r.schemasAt files paths)) :
    (r.runAt files paths).output
      = String.join (paths.map fun path => (r.runAt files [path]).output) := by
  obtain ⟨entries, hentries, hemits⟩ := hready
  obtain ⟨sources, hsources⟩ := hemits hproduct
  clear hemits
  rw [output_runAt_of_classes hproduct houtput hentries hsources]
  rw [schemasAt_package_eq_ok_iff hnaming] at hentries
  -- each input puts its own source files in front of those of the inputs behind it
  induction hentries generalizing sources with
  | nil =>
      cases hsources
      rfl
  | @cons path entry paths entries hentry _ ih =>
      obtain ⟨own, others, hown, hothers, rfl⟩ := sourcesOf_cons_eq_ok_iff.mp hsources
      have halone : r.schemasAt files [path] = .ok [entry] :=
        (schemasAt_package_eq_ok_iff hnaming).mpr (.cons hentry .nil)
      have hprinted : sourcesOf [entry] = .ok own :=
        sourcesOf_cons_eq_ok_iff.mpr ⟨own, [], hown, rfl, List.append_nil own⟩
      rw [List.map_append, String.join_append, ih others hothers, List.map_cons, String.join_cons,
        output_runAt_of_classes hproduct houtput halone hprinted]

/-- **The schemas of several inputs** are, path by path, those of their texts. -/
theorem schemasAt_eq_ok_iff_generates (hnaming : r.naming = .package package)
    (hwhole : r.selection.isWhole = true) {paths : List String}
    {entries : List (Input × Schema)} :
    r.schemasAt files paths = .ok entries ↔
      List.Forall₂ (fun path entry => r.Generates files package path entry.1 (.ok entry.2))
        paths entries := by
  rw [schemasAt_package_eq_ok_iff hnaming]
  simp only [generates_ok_iff hwhole]

/-- **Inputs of a run do not influence each other**, and each is treated as its text alone. In a
request for a package, the run over some paths has all it needs exactly if the run over each path
alone has, and it succeeds exactly if each of these does if it prints. If all of each input is the
sample, the schemas of the run are, path by path, those of the texts, under root names in the
package; an input whose text has no schema fails for the same reason. What the run prints for
classes is what the runs over the single paths print, in order; what it prints for the schema of
one input is that of its text. -/
theorem runAt_batch (hdry : r.isDry = false) (hnaming : r.naming = .package package) (files : Tree)
    (paths : List String) :
    (∀ inputs found, ({ r with inputs := inputs }).paths files = .ok found →
      ({ r with inputs := inputs }).run files = r.runAt files found) ∧
    (r.IsReady (r.schemasAt files paths) ↔ ∀ path ∈ paths, r.IsReady (r.schemasAt files [path])) ∧
    (r.output = none → ((r.runAt files paths).failure = none ↔
      ∀ path ∈ paths, (r.runAt files [path]).failure = none)) ∧
    (r.selection.isWhole = true →
      (∀ results, r.schemasAt files paths = .ok results ↔
        List.Forall₂ (fun path result => r.Generates files package path result.1 (.ok result.2))
          paths results) ∧
      ∀ path input f, r.Generates files package path input (.error f) →
        ∃ failure, r.schemasAt files [path] = .error failure ∧ failure.cause? = some f) ∧
    (r.output = none → r.IsReady (r.schemasAt files paths) →
      (r.product = .classes → (r.runAt files paths).output
        = String.join (paths.map fun path => (r.runAt files [path]).output)) ∧
      (r.product = .schema → r.selection.isWhole = true → ∀ path input s, paths = [path] →
        r.Generates files package path input (.ok s) →
          (r.runAt files paths).output = Json.pretty s.toJson ++ "\n")) := by
  refine ⟨fun inputs found => run_eq_runAt (r := { r with inputs := inputs }) hdry,
    isReady_batch_iff hnaming, fun houtput => ?_,
    fun hwhole => ⟨fun results => schemasAt_eq_ok_iff_generates hnaming hwhole,
      fun path input f => Generates.schemasAt_eq_error hnaming hwhole⟩,
    fun houtput hready => ⟨fun hproduct => output_batch hnaming hproduct houtput hready, ?_⟩⟩
  · simp only [runAt, failure_conclude_iff houtput]
    exact isReady_batch_iff hnaming
  · rintro hproduct hwhole path input s rfl h
    have hentries : r.schemasAt files [path] = .ok [(input, s)] :=
      (schemasAt_eq_ok_iff_generates hnaming hwhole).mpr (.cons h .nil)
    simp only [runAt, hentries, conclude, hproduct, runSchema, houtput, schemaText]

end Request

/-- A request for what is made of two files of the same name. -/
def twinRequest (product : Product) : Request :=
  plainRequest product ["a/r.json", "b/r.json"] none

/-- Two directories with those files, which hold the same text. -/
def twinFiles : Tree :=
  ⟨[(Location.here.child ['a'], .directory), (Location.here.child ['b'], .directory),
    ((Location.here.child ['a']).child "r.json".toList, .file (.text ownedObject)),
    ((Location.here.child ['b']).child "r.json".toList, .file (.text ownedObject))]⟩

theorem generates_twins (product : Product) :
    List.Forall₂ (fun path result =>
        (twinRequest product).Generates twinFiles "p" path result.1 (.ok result.2))
      ["a/r.json", "b/r.json"]
      [(⟨"a/r.json", "p.R"⟩, ownedSchema), (⟨"b/r.json", "p.R"⟩, ownedSchema)] := by
  refine .cons ?_ (.cons ?_ .nil)
  · exact ⟨ownedObject, ['r'], "R", rfl, rfl, rfl, rfl, generate_ownedObject⟩
  · exact ⟨ownedObject, ['r'], "R", rfl, rfl, rfl, rfl, generate_ownedObject⟩

/-- Two inputs whose classes share their names are both printed, one after the other. -/
theorem runAt_batch_twins :
    ((twinRequest .classes).run twinFiles).failure = none ∧
    ((twinRequest .classes).run twinFiles).output
      = String.join [((twinRequest .classes).runAt twinFiles ["a/r.json"]).output,
          ((twinRequest .classes).runAt twinFiles ["b/r.json"]).output] ∧
    ((twinRequest .schema).runAt twinFiles ["a/r.json"]).output
      = Json.pretty ownedSchema.toJson ++ "\n" := by
  obtain ⟨hrun, _, _, hschemas, hprints⟩ := @Request.runAt_batch (twinRequest .classes) "p" rfl rfl
    twinFiles ["a/r.json", "b/r.json"]
  obtain ⟨_, _, _, hschema, hprint⟩ := @Request.runAt_batch (twinRequest .schema) "p" rfl rfl
    twinFiles ["a/r.json"]
  have hready : (twinRequest .classes).IsReady
      ((twinRequest .classes).schemasAt twinFiles ["a/r.json", "b/r.json"]) := by
    refine ⟨_, ((hschemas rfl).1 _).mpr (generates_twins .classes), fun _ => ?_⟩
    exact exists_sourcesOf_iff.mpr (by simp [ofRegistry_ownedSchema])
  have hown : (twinRequest .schema).Generates twinFiles "p" "a/r.json" ⟨"a/r.json", "p.R"⟩
      (.ok ownedSchema) := by
    cases generates_twins .schema with
    | cons h _ => exact h
  have hownReady : (twinRequest .schema).IsReady
      ((twinRequest .schema).schemasAt twinFiles ["a/r.json"]) :=
    ⟨_, ((hschema rfl).1 [(_, ownedSchema)]).mpr (.cons hown .nil), nofun⟩
  have hrun : (twinRequest .classes).run twinFiles
      = (twinRequest .classes).runAt twinFiles ["a/r.json", "b/r.json"] := hrun _ _ rfl
  rw [hrun]
  exact ⟨(Request.failure_conclude_iff rfl).mpr hready, (hprints rfl hready).1 rfl,
    (hprint rfl hownReady).2 rfl rfl _ _ _ rfl hown⟩

end Specimen.Command
