import Specimen.Command.Run
import Specimen.Proofs.Json.Reading
import Specimen.Proofs.Path.Joining
import Specimen.Proofs.Xml.Names

set_option autoImplicit false

/-! # Where source files lie

The file of a class is to lie in the directories of its package, below the directory of all
sources. No file leads back up, whatever the class is called, because the pieces of its path are
cut at points and only the ending holds one (`parent_not_mem_sourcePath`). But a piece that starts
with a slash replaces everything in front of it, so the path is absolute exactly if a part of the
class's name between points starts with a slash (`isAbsolute_sourcePath_iff`). Names in XML
documents never do that; the names of members of JSON objects can, and then the file lies
elsewhere (`generate_rootedMember`).
-/

namespace Specimen.Java

open Specimen.Document Specimen.Inference Specimen.Path Specimen.Schema Specimen.Text

/-! ## The path of one class -/

theorem toList_sourcePath (package simpleName : String) :
    (sourcePath package simpleName).toList
      = join (packagePath package) (simpleName.toList ++ ".java".toList) := by
  rw [sourcePath, String.toList_ofList, String.toList_append]

/-- The only point in a source file's path is that of the ending. -/
theorem count_sourcePath_le {package simpleName : String} (h : '.' ∉ simpleName.toList) :
    (sourcePath package simpleName).toList.count '.' ≤ 1 := by
  have hpackage : (packagePath package).count '.' ≤ 0 := by
    refine count_foldl_join_le [] fun piece hpiece => ?_
    exact not_mem_of_mem_segments (List.mem_of_mem_filter hpiece)
  have hname : (simpleName.toList ++ ".java".toList).count '.' = 1 := by
    rw [List.count_append, List.count_eq_zero_of_not_mem h]
    rfl
  have hjoin := count_join_le (packagePath package) (simpleName.toList ++ ".java".toList)
  rw [toList_sourcePath]
  omega

/-- **No source file leads back up.** -/
theorem parent_not_mem_sourcePath {package simpleName : String} (h : '.' ∉ simpleName.toList) :
    parent ∉ parts (sourcePath package simpleName).toList :=
  parent_not_mem_parts (count_sourcePath_le h)

theorem ending_suffix_sourcePath (package simpleName : String) :
    ".java".toList <:+ (sourcePath package simpleName).toList := by
  rw [toList_sourcePath]
  exact (List.suffix_append _ _).trans (suffix_join _ _)

/-- A source file's path that is not absolute starts nowhere of its own: the only point is not in
front, unless the whole path is the ending. -/
theorem start_sourcePath {package simpleName : String} (h : '.' ∉ simpleName.toList)
    (hrelative : isAbsolute (sourcePath package simpleName).toList = false) :
    start (sourcePath package simpleName).toList = [] := by
  obtain ⟨front, hfront⟩ := ending_suffix_sourcePath package simpleName
  have hcount : (sourcePath package simpleName).toList.count '.' ≤ 1 := count_sourcePath_le h
  rw [← hfront] at hcount hrelative ⊢
  have hpoint : '.' ∉ front := by
    have hending : ".java".toList.count '.' = 1 := by decide
    rw [List.count_append, hending] at hcount
    exact List.count_eq_zero.mp (by omega)
  rw [start, hrelative, if_neg Bool.false_ne_true, if_neg]
  intro hhead
  cases front with
  | nil => exact absurd hhead (by decide)
  | cons c rest =>
      -- a path whose first segment is a point starts with one
      have hsegment : ((segments '/' (c :: rest ++ ".java".toList)).headD []).head? = some '.' := by
        rw [List.headD_eq_head?_getD, hhead]
        rfl
      rw [head?_headD_segments (by decide)] at hsegment
      obtain rfl : c = '.' := by simpa using hsegment
      exact hpoint List.mem_cons_self

theorem parts_sourcePath_ne_nil (package simpleName : String) :
    parts (sourcePath package simpleName).toList ≠ [] := by
  have hletter : 'j' ∈ (sourcePath package simpleName).toList :=
    (ending_suffix_sourcePath package simpleName).subset (by decide)
  exact parts_ne_nil hletter (by decide) (by decide)

theorem isAbsolute_packagePath (package : String) :
    isAbsolute (packagePath package) = (segments '.' package.toList).any isAbsolute := by
  have hnil : isAbsolute [] = false := rfl
  rw [packagePath, isAbsolute_foldl_join, hnil, Bool.false_or, List.any_filter]
  refine List.any_congr rfl fun part => ?_
  cases part <;> simp [hnil]

/-- **A source file's path is absolute** exactly if a part of its class's name starts with a
slash. -/
theorem isAbsolute_sourcePath_iff (name : String) :
    isAbsolute (sourcePath (splitQualified name).1 (splitQualified name).2).toList = false ↔
      IsRelativeName name := by
  have hnil : isAbsolute [] = false := rfl
  have hfile : ∀ simple : List Char, isAbsolute (simple ++ ".java".toList) = isAbsolute simple := by
    intro simple
    cases simple <;> rfl
  rw [toList_sourcePath, isAbsolute_join, hfile, Bool.or_eq_false_iff, isAbsolute_packagePath,
    List.any_eq_false]
  simp only [Bool.not_eq_true]
  unfold IsRelativeName
  rcases splitQualified_cases name with ⟨hname, hsimple⟩ | ⟨hsplit, hname⟩
  · rw [hname, segments_append_cons, segments_of_not_mem hsimple]
    simp only [List.mem_append, List.mem_singleton, or_imp, forall_and, forall_eq]
  · rw [hsplit, segments_of_not_mem hname]
    simp [segments, hnil]

/-! ## The files of a document -/

theorem exists_class_of_mem_files {r : Registry} {files : List SourceFile}
    (h : SourceFile.ofRegistry r = .ok files) {file : SourceFile} (hfile : file ∈ files) :
    ∃ n ∈ r.keys, file.path = sourcePath (splitQualified n).1 (splitQualified n).2 := by
  obtain ⟨models, hmodels, rfl⟩ := exists_of_map_eq_ok h
  obtain ⟨m, hm, rfl⟩ := List.mem_map.mp hfile
  obtain ⟨c, hc, hcm⟩ := exists_of_mem_mapM hmodels hm
  obtain ⟨fields, _, rfl⟩ := exists_of_map_eq_ok hcm
  exact ⟨c.qualifiedName, Keyed.key_mem_keys hc, rfl⟩

section Generate

variable {options : Options} {rootName text : String} {format : Format} {s : Schema}
  {files : List SourceFile}

/-- All names of classes are relative if those of the document's parts are. -/
theorem isRelativeName_of_infer {element : Element} (hroot : IsRelativeName rootName)
    (hparts : ∀ n ∈ partNames element, IsRelativeName n)
    (h : infer options rootName element = .ok s) : ∀ n ∈ s.registry.keys, IsRelativeName n := by
  intro n hn
  obtain ⟨package, name, hsplit⟩ := exists_splitRoot_of_infer h
  rw [eq_qualify_of_splitRoot hsplit, isRelativeName_qualify] at hroot
  obtain ⟨o, ho, rfl⟩ := exists_sampled_of_mem_keys hsplit h hn
  have hname := isKeptByNaming_isRelativeName.sampled name element hroot.2 hparts o ho
  exact isRelativeName_qualify.mpr ⟨hroot.1, hname⟩

/-- **Source files stay below the directory that they are written to.** None leads back up; and
none is absolute, unless the document is a JSON document with a member in whose name a slash
stands in front or behind a point. -/
theorem generate_sources_below (hroot : IsRelativeName rootName)
    (hs : generate options rootName text format = .ok s)
    (hfiles : SourceFile.ofRegistry s.registry = .ok files) :
    (∀ file ∈ files, parent ∉ parts file.path.toList) ∧
      ((∀ v, format = .json → readJson text = .ok v →
          ∀ n ∈ partNames (Element.ofJson v), IsRelativeName n) →
        ∀ file ∈ files, isAbsolute file.path.toList = false ∧
          ∀ directory, IsBelow directory (Command.destination directory file)) := by
  constructor
  · intro file hfile
    obtain ⟨n, _, hpath⟩ := exists_class_of_mem_files hfiles hfile
    rw [hpath]
    exact parent_not_mem_sourcePath (point_not_mem_splitQualified n)
  · intro hnames file hfile
    obtain ⟨n, hn, hpath⟩ := exists_class_of_mem_files hfiles hfile
    obtain ⟨element, hread, hinfer⟩ := exists_of_bind_eq_ok hs
    have hparts : ∀ n ∈ partNames element, IsRelativeName n := by
      cases format with
      | json =>
          obtain ⟨v, hv, rfl⟩ := exists_of_map_eq_ok hread
          exact hnames v rfl hv
      | xml =>
          -- names in XML documents hold no slash at all
          intro n hn
          exact isRelativeName_of_not_mem (isLocalName_of_readXml hread n hn).slash_not_mem
    have hrelative : isAbsolute file.path.toList = false := by
      rw [hpath]
      exact (isAbsolute_sourcePath_iff n).mpr (isRelativeName_of_infer hroot hparts hinfer n hn)
    refine ⟨hrelative, fun directory => isBelow_join directory hrelative ?_ ?_⟩
    · rw [hpath]
      exact parts_sourcePath_ne_nil _ _
    · rw [hpath]
      exact parent_not_mem_sourcePath (point_not_mem_splitQualified n)

end Generate

/-- An object with a member in whose name a slash stands between letters. -/
def innerSlash : String := "\x7b\"a/b\":\x7b\x7d\x7d"

theorem read_innerSlash : Json.read innerSlash = .ok (.object [("a/b", .object [])]) :=
  Json.read_emptyMember rfl (by simp)

/-- A slash inside a member's name makes a directory, which lies below as well. -/
theorem generate_innerSlash_below :
    ∃ s files, generate .standard "p.R" innerSlash .json = .ok s ∧
      SourceFile.ofRegistry s.registry = .ok files ∧
      ∀ file ∈ files, IsBelow "out".toList (Command.destination "out".toList file) := by
  have hroot : IsRelativeName "p.R" := isRelativeName_of_not_mem (by decide)
  have hs : generate .standard "p.R" innerSlash .json
      = .ok ⟨.objectRef "p.R", Keyed.ofList
          [⟨"p.A/b", Keyed.empty⟩, ⟨"p.R", Keyed.ofList [("a/b", .objectRef "p.A/b")]⟩]⟩ := by
    rw [generate, Document.read, readJson, read_innerSlash]
    rfl
  obtain ⟨files, hfiles⟩ : ∃ files, SourceFile.ofRegistry (Keyed.ofList
      [⟨"p.A/b", Keyed.empty⟩, ⟨"p.R", Keyed.ofList [("a/b", .objectRef "p.A/b")]⟩])
      = .ok files := ⟨_, rfl⟩
  have hnames : ∀ v, Format.json = .json → readJson innerSlash = .ok v →
      ∀ n ∈ partNames (Element.ofJson v), IsRelativeName n := by
    intro v _ hv n hn
    rw [readJson, read_innerSlash] at hv
    cases hv
    obtain rfl : n = "a/b" := by
      simpa [Element.ofJson, Element.ofMembers, partNames, childNames] using hn
    intro part hpart
    obtain rfl : part = ['a', '/', 'b'] := by simpa [segments] using hpart
    rfl
  refine ⟨_, files, hs, hfiles, fun file hfile => ?_⟩
  exact ((generate_sources_below hroot hs hfiles).2 hnames file hfile).2 "out".toList

/-- An object with a member whose name starts with a slash. -/
def rootedMember : String := "\x7b\"/users\":\x7b\x7d\x7d"

theorem read_rootedMember : Json.read rootedMember = .ok (.object [("/users", .object [])]) :=
  Json.read_emptyMember rfl (by simp)

/-- A slash in front of a member's name leads to the root directory, whatever directory the source
files are written to. -/
theorem generate_rootedMember :
    ∃ s files, generate .standard "p.R" rootedMember .json = .ok s ∧
      SourceFile.ofRegistry s.registry = .ok files ∧
      ∃ file ∈ files, isAbsolute file.path.toList = true ∧
        Command.destination "out".toList file = "/users.java".toList ∧
        ¬ IsBelow "out".toList (Command.destination "out".toList file) := by
  have hs : generate .standard "p.R" rootedMember .json
      = .ok ⟨.objectRef "p.R", Keyed.ofList
          [⟨"p./users", Keyed.empty⟩,
            ⟨"p.R", Keyed.ofList [("/users", .objectRef "p./users")]⟩]⟩ := by
    rw [generate, Document.read, readJson, read_rootedMember]
    rfl
  refine ⟨_, _, hs, rfl, _, List.mem_cons_self, rfl, rfl, fun hbelow => ?_⟩
  exact absurd hbelow.1 (by decide)

end Specimen.Java
