import Specimen.Proofs.Command.Inputs
import Specimen.Proofs.Inference.Reachability
import Specimen.Proofs.Java.Emission
import Specimen.Proofs.Java.Location
import Specimen.Proofs.Schema.Soundness

set_option autoImplicit false

/-! # The package of a run

All classes of a run are qualified by the package of its root class, and what is written for them
takes their names apart again at the last point. That gives the package and the simple name back
exactly if the simple name has no point (`filedUnder_iff`). Names of root classes have none, and
naming classes after parts of a document or after files puts none in; but names of members, tags
and file names can have points of their own, and then a class comes to lie in a package that was
never asked for (`generate_innerPoint`).

`classes_keep_package` says this of the classes of a document and of the root classes of the
inputs of a request for a package.
-/

namespace Specimen.Java

open Specimen.Command Specimen.Document Specimen.Inference Specimen.Path Specimen.Schema
open Specimen.Text

/-! ## The file of a class in a package -/

/-- A class model has a package and a simple name, and so has its file: the file declares the
package, and its path leads through the directories of the package to the simple name, unless a
part of the two starts with a slash. -/
structure ClassModel.FiledUnder (m : ClassModel) (package simpleName : String) : Prop where
  package_eq : m.package = package
  simpleName_eq : m.simpleName = simpleName
  declares : ∃ rest, (SourceFile.ofModel m).contents = "package " ++ package ++ ";\n" ++ rest
  leads : IsRelativeName (qualify package simpleName) →
    isAbsolute (SourceFile.ofModel m).path.toList = false ∧
      parts (SourceFile.ofModel m).path.toList
        = (segments '.' package.toList).flatMap parts ++ parts (simpleName ++ ".java").toList

theorem parts_packagePath {package : String} (h : IsRelativeName package) :
    parts (packagePath package) = (segments '.' package.toList).flatMap parts := by
  have hempty : ∀ pieces : List (List Char),
      (pieces.filter fun part => !part.isEmpty).flatMap parts = pieces.flatMap parts := by
    intro pieces
    induction pieces with
    | nil => rfl
    | cons piece pieces ih => cases piece <;> simp [ih, parts, segments, isEmptyPart]
  rw [packagePath, parts_foldl_join [] fun part hpart => h part (List.mem_of_mem_filter hpart),
    hempty]
  rfl

/-- **The path of a source file** leads through the directories of the package to the name. -/
theorem parts_sourcePath {package simpleName : String} (hpackage : IsRelativeName package)
    (hname : isAbsolute simpleName.toList = false) :
    parts (sourcePath package simpleName).toList
      = (segments '.' package.toList).flatMap parts ++ parts (simpleName ++ ".java").toList := by
  have hfile : isAbsolute (simpleName ++ ".java").toList = false := by
    rw [String.toList_append]
    cases hlist : simpleName.toList with
    | nil => rfl
    | cons c r => rwa [hlist] at hname
  rw [sourcePath, String.toList_ofList, parts_join _ hfile, parts_packagePath hpackage]

theorem exists_contents_ofModel {m : ClassModel} (h : m.package ≠ "") :
    ∃ rest, (SourceFile.ofModel m).contents = "package " ++ m.package ++ ";\n" ++ rest := by
  have hpackage : packageText m.package = "package " ++ m.package ++ ";\n" ++ blankLine := by
    rw [packageText, if_neg (by simpa using h), line]
    simp [String.append_assoc]
  rw [SourceFile.ofModel, classText, hpackage]
  exact ⟨_, by simp only [String.append_assoc]; rfl⟩

/-- **A class lies where its name was put together** exactly if its simple name has no point. -/
theorem filedUnder_iff {c : ClassDefinition} {package simpleName : String}
    (hname : c.qualifiedName = qualify package simpleName) (hpackage : package ≠ "") :
    (ClassModel.named c).FiledUnder package simpleName ↔ '.' ∉ simpleName.toList := by
  constructor
  · intro h
    rw [← h.simpleName_eq]
    exact point_not_mem_splitQualified c.qualifiedName
  · intro hpoint
    have hsplit : splitQualified c.qualifiedName = (package, simpleName) := by
      rw [hname]
      exact splitQualified_qualify_iff.mpr hpoint
    have hfirst : (ClassModel.named c).package = package := congrArg Prod.fst hsplit
    have hsecond : (ClassModel.named c).simpleName = simpleName := congrArg Prod.snd hsplit
    have hpath : (SourceFile.ofModel (ClassModel.named c)).path = sourcePath package simpleName := by
      rw [SourceFile.ofModel, hfirst, hsecond]
    refine ⟨hfirst, hsecond, ?_, fun hrelative => ?_⟩
    · rw [← hfirst]
      exact exists_contents_ofModel (by rwa [hfirst])
    · obtain ⟨hrelativePackage, hrelativeName⟩ := isRelativeName_qualify.mp hrelative
      have hname' : isAbsolute simpleName.toList = false :=
        hrelativeName _ (by rw [segments_of_not_mem hpoint]; exact List.mem_singleton_self _)
      rw [hpath]
      refine ⟨?_, parts_sourcePath hrelativePackage hname'⟩
      have habsolute := (isAbsolute_sourcePath_iff c.qualifiedName).mpr (by rwa [hname])
      rwa [hsplit] at habsolute

/-! ## The classes of a document -/

section Infer

variable {options : Options} {rootName package name : String} {element : Element} {s : Schema}

/-- Each class of a document was put together from the package and the name of a sampled object. -/
theorem exists_filedUnder_iff (hroot : splitRoot rootName = .ok (package, name))
    (hinfer : infer options rootName element = .ok s) {c : ClassDefinition}
    (hc : c ∈ s.registry.toList) :
    ∃ o ∈ sampledObjects name element, c.qualifiedName = qualify package o.name ∧
      ((ClassModel.named c).FiledUnder package o.name ↔ '.' ∉ o.name.toList) := by
  obtain ⟨o, ho, hname⟩ := exists_sampled_of_mem_keys hroot hinfer (Keyed.key_mem_keys hc)
  exact ⟨o, ho, hname, filedUnder_iff hname (splitRoot_eq_ok_iff.mp hroot).2.2.1⟩

/-- A part of a document with a class of its own gives the class its own name. -/
theorem eq_qualify_of_listing {typing : StringTyping} {c : String}
    (h : (listing typing package name element).result = .ok (.objectRef c)) :
    c = qualify package name := by
  cases element with
  | scalar x =>
      have hnone := reference?_leafType typing x
      rw [Except.ok.inj h] at hnone
      cases hnone
  | container origin attributes children =>
      rcases listing_container_cases h with ⟨_, heq, _⟩ | ⟨_, heq⟩ | ⟨_, _, _, heq, _⟩
      · cases heq
      · rw [heq] at h
        cases children with
        | nil => cases h
        | cons first others =>
            obtain ⟨u, _, hlist⟩ := exists_of_listingOfFirst h
            cases hlist
      · cases heq
        rfl

/-- **The root class has the name that was asked for**, and merging lets it keep it. -/
theorem eq_rootName_of_infer (hinfer : infer options rootName element = .ok s) {c : String}
    (hc : s.root = .objectRef c) : c = rootName := by
  obtain ⟨package, name, hroot⟩ := exists_splitRoot_of_infer hinfer
  have hall : ∀ c, s.root = .objectRef c → c = rootName := by
    refine infer_invariant (fun u hrun c hc => ?_) (fun u hu c hc => ?_) hinfer
    · obtain ⟨hresult, _⟩ := listing_of_run hroot hrun
      rw [hc] at hresult
      rw [eq_qualify_of_listing hresult, eq_qualify_of_splitRoot hroot]
    · rw [u.root_merge] at hc
      cases hd : u.root <;> rw [hd] at hc <;> cases hc
      rw [representative_root hd]
      exact hu _ hd
  exact hall c hc

end Infer

/-! ## The inputs of a request -/

section RootClass

variable {options : Options} {element : Element} {s : Schema} {package name : String}
  {stem : List Char}

/-- A root name that was put together from a package and a capitalized stem comes apart again
exactly if the stem has no point. -/
theorem splitRoot_qualify_iff (hname : capitalize (String.ofList stem) = .ok name)
    (hinfer : infer options (qualify package name) element = .ok s) :
    splitRoot (qualify package name) = .ok (package, name) ↔ '.' ∉ stem := by
  have hpoint := point_mem_capitalize_iff hname
  rw [String.toList_ofList] at hpoint
  rw [← hpoint]
  constructor
  · exact fun h => (splitRoot_eq_ok_iff.mp h).2.1
  · intro hsimple
    -- the package is not empty, or the root name would have been refused
    obtain ⟨package', name', hroot⟩ := exists_splitRoot_of_infer hinfer
    obtain ⟨heq, hsimple', _⟩ := splitRoot_eq_ok_iff.mp hroot
    obtain ⟨rfl, rfl⟩ := eq_of_qualify_eq hsimple hsimple' heq
    exact hroot

/-- **The root class of an input** lies in the package that was asked for, under the name of the
input's file, exactly if that name has no point. -/
theorem rootClass_filedUnder_iff {format : Format} {c : String}
    (hname : capitalize (String.ofList stem) = .ok name) (htree : element.IsTreeOf format)
    (hinfer : infer options (qualify package name) element = .ok s) (hc : s.root = .objectRef c) :
    ∃ models, ClassModel.ofRegistry s.registry = .ok models ∧
      ∃ m ∈ models, m.qualifiedName = c ∧ (m.FiledUnder package name ↔ '.' ∉ stem) := by
  have hsplit := splitRoot_qualify_iff hname hinfer
  obtain ⟨_, hwithin⟩ := resolved_of_infer hinfer
  obtain ⟨d, hd, hdc⟩ := List.mem_map.mp (hwithin c (by rw [hc]; rfl))
  have hdname : d.qualifiedName = qualify package name :=
    hdc.trans (eq_rootName_of_infer hinfer hc)
  refine ⟨_, (ofRegistry_of_infer htree hinfer).1, _, List.mem_map_of_mem hd, hdc, ?_⟩
  constructor
  · intro hfiled hstem
    have hpoint := point_not_mem_splitQualified d.qualifiedName
    rw [show (splitQualified d.qualifiedName).2 = name from hfiled.simpleName_eq,
      point_mem_capitalize_iff hname, String.toList_ofList] at hpoint
    exact hpoint hstem
  · intro hstem
    obtain ⟨_, hsimple, hpackage, _⟩ := splitRoot_eq_ok_iff.mp (hsplit.mpr hstem)
    exact (filedUnder_iff hdname hpackage).mpr hsimple

end RootClass

/-! ## All classes of a run -/

/-- **Classes keep the package of their run**, unless they are named with a point. Each class of a
document is qualified by the package of the root name and lies there under the name that was
proposed for it, exactly if that name has no point; if no part of the document has a name with a
point, all of them do. And if a request asks for a package, the root class of each of its inputs
is called by the capitalized stem of the input's file and lies there, exactly if that stem has no
point. -/
theorem classes_keep_package (options : Options) (rootName package name text : String)
    (format : Format) (s : Schema) (r : Request) (files : Files.Tree)
    (schemas : List (Input × Schema)) :
    (splitRoot rootName = .ok (package, name) →
      generate options rootName text format = .ok s →
      ∃ element models, Document.read text format = .ok element ∧
        ClassModel.ofRegistry s.registry = .ok models ∧
        SourceFile.ofRegistry s.registry = .ok (models.map SourceFile.ofModel) ∧
        (∀ m ∈ models, ∃ o ∈ sampledObjects name element,
          m.qualifiedName = qualify package o.name ∧
            (m.FiledUnder package o.name ↔ '.' ∉ o.name.toList)) ∧
        ((∀ n ∈ partNames element, '.' ∉ n.toList) →
          ∀ m ∈ models, ∃ o ∈ sampledObjects name element, m.FiledUnder package o.name)) ∧
    (r.naming = .package package → r.schemas files = .ok schemas →
      ∀ entry ∈ schemas, ∃ stem rootClass, stem? entry.1.path.toList = some stem ∧
        capitalize (String.ofList stem) = .ok rootClass ∧
        entry.1.rootName = qualify package rootClass ∧
        (splitRoot entry.1.rootName = .ok (package, rootClass) ↔ '.' ∉ stem) ∧
        ∀ c, entry.2.root = .objectRef c →
          ∃ models, ClassModel.ofRegistry entry.2.registry = .ok models ∧
            ∃ m ∈ models, m.qualifiedName = c ∧
              (m.FiledUnder package rootClass ↔ '.' ∉ stem)) := by
  constructor
  · intro hroot hs
    obtain ⟨element, hread, hinfer⟩ := exists_of_bind_eq_ok hs
    obtain ⟨hmodels, _⟩ := ofRegistry_of_infer (isTreeOf_of_read hread) hinfer
    refine ⟨element, _, hread, hmodels, ?_, fun m hm => ?_, fun hparts m hm => ?_⟩
    · rw [SourceFile.ofRegistry, hmodels]
      rfl
    · obtain ⟨c, hc, rfl⟩ := List.mem_map.mp hm
      exact exists_filedUnder_iff hroot hinfer hc
    · obtain ⟨c, hc, rfl⟩ := List.mem_map.mp hm
      obtain ⟨o, ho, _, hfiled⟩ := exists_filedUnder_iff hroot hinfer hc
      have hname := (splitRoot_eq_ok_iff.mp hroot).2.1
      exact ⟨o, ho, hfiled.mpr (isKeptByNaming_pointless.sampled name element hname hparts o ho)⟩
  · intro hnaming hschemas entry hentry
    obtain ⟨⟨stem, rootClass, hstem, hname, hroot⟩, hschema⟩ :=
      exists_of_mem_schemas hnaming hschemas hentry
    obtain ⟨format, element, htree, hinfer⟩ := exists_infer_of_schemaOf hschema
    rw [hroot] at hinfer
    refine ⟨stem, rootClass, hstem, hname, hroot, ?_, fun c hc => ?_⟩
    · rw [hroot]
      exact splitRoot_qualify_iff hname hinfer
    · exact rootClass_filedUnder_iff hname htree hinfer hc

/-- A request for the classes of one input, in a package. -/
def ownedRequest : Request where
  product := .classes
  inputs := ["r.json"]
  format := none
  selection := ⟨none, none⟩
  naming := .package "p"
  options := .standard
  output := none
  isDry := false

/-- A directory with that input. -/
def ownedFiles : Files.Tree :=
  ⟨[(Files.Location.here.child "r.json".toList, .file (.text ownedObject))]⟩

theorem schemas_owned :
    ownedRequest.schemas ownedFiles = .ok [(⟨"r.json", "p.R"⟩, ownedSchema)] := by
  have hpaths : ownedRequest.paths ownedFiles = .ok ["r.json"] := rfl
  have hschema : ownedRequest.schemaOf ownedFiles ⟨"r.json", "p.R"⟩ = .ok ownedSchema :=
    (schemaOf_eq_ok_iff_generate rfl).mpr ⟨ownedObject, rfl, generate_ownedObject⟩
  rw [Request.schemas_eq, hpaths]
  show ownedRequest.schemasAt ownedFiles ["r.json"] = _
  refine Request.schemasAt_eq_ok_iff.mpr ⟨.cons ⟨rfl, hschema⟩ .nil, ?_⟩
  intro name hnaming
  cases hnaming

theorem classes_keep_package_owned :
    (generate .standard "p.R" ownedObject .json = .ok ownedSchema ∧
      ∃ models, ClassModel.ofRegistry ownedSchema.registry = .ok models ∧
        ∀ m ∈ models, ∃ o ∈ sampledObjects "R" (.ofJson (.object [("owner", .object [])])),
          m.FiledUnder "p" o.name) ∧
    (ownedRequest.schemas ownedFiles = .ok [(⟨"r.json", "p.R"⟩, ownedSchema)] ∧
      ∃ models, ClassModel.ofRegistry ownedSchema.registry = .ok models ∧
        ∃ m ∈ models, m.qualifiedName = "p.R" ∧ m.FiledUnder "p" "R") := by
  have hkeep := classes_keep_package .standard "p.R" "p" "R" ownedObject .json ownedSchema
    ownedRequest ownedFiles [(⟨"r.json", "p.R"⟩, ownedSchema)]
  constructor
  · obtain ⟨element, models, hread, hmodels, _, _, hfiled⟩ := hkeep.1 rfl generate_ownedObject
    rw [Document.read, read_ownedObject] at hread
    obtain rfl := Except.ok.inj hread
    refine ⟨generate_ownedObject, models, hmodels, hfiled fun n hn => ?_⟩
    obtain rfl : n = "owner" := by
      simpa [Element.ofJson, Element.ofMembers, partNames, childNames] using hn
    decide
  · obtain ⟨stem, name, hstem, hname, _, _, hclass⟩ :=
      hkeep.2 rfl schemas_owned _ (List.mem_singleton_self _)
    have hr : stem? "r.json".toList = some ['r'] := rfl
    have hR : capitalize (String.ofList ['r']) = .ok "R" := rfl
    obtain rfl := Option.some.inj (hr.symm.trans hstem)
    obtain rfl := Except.ok.inj (hR.symm.trans hname)
    obtain ⟨models, hmodels, m, hm, hmname, hfiled⟩ := hclass "p.R" rfl
    exact ⟨schemas_owned, models, hmodels, m, hm, hmname, hfiled.mpr (by decide)⟩

/-- An object with a member in whose name a point stands between letters. -/
def innerPoint : String := "\x7b\"a.b\":\x7b\x7d\x7d"

theorem read_innerPoint : Json.read innerPoint = .ok (.object [("a.b", .object [])]) :=
  Json.read_emptyMember rfl (by simp)

/-- A point inside a member's name takes the class to another package and cuts its name. -/
theorem generate_innerPoint :
    ∃ s models, generate .standard "p.R" innerPoint .json = .ok s ∧
      ClassModel.ofRegistry s.registry = .ok models ∧
      ∃ m ∈ models, m.qualifiedName = qualify "p" "A.b" ∧ m.package = "p.A" ∧ m.simpleName = "b" ∧
        (SourceFile.ofModel m).path = "p/A/b.java" ∧ ¬ m.FiledUnder "p" "A.b" := by
  have hs : generate .standard "p.R" innerPoint .json
      = .ok ⟨.objectRef "p.R", Keyed.ofList
          [⟨"p.A.b", Keyed.empty⟩, ⟨"p.R", Keyed.ofList [("a.b", .objectRef "p.A.b")]⟩]⟩ := by
    rw [generate, Document.read, readJson, read_innerPoint]
    rfl
  have hmodels : ClassModel.ofRegistry (Keyed.ofList
      [⟨"p.A.b", Keyed.empty⟩, ⟨"p.R", Keyed.ofList [("a.b", .objectRef "p.A.b")]⟩])
      = .ok [⟨"p.A.b", "p.A", "b", []⟩,
          ClassModel.named ⟨"p.R", Keyed.ofList [("a.b", .objectRef "p.A.b")]⟩] := rfl
  refine ⟨_, _, hs, hmodels, _, List.mem_cons_self, rfl, rfl, rfl, rfl, fun hfiled => ?_⟩
  exact absurd hfiled.package_eq (by decide)

end Specimen.Java
