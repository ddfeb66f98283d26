import Mathlib.Data.List.ModifyLast
import Specimen.Proofs.Files.Writing
import Specimen.Proofs.Java.Emission
import Specimen.Proofs.Java.Location
import Specimen.Proofs.Schema.Representative

set_option autoImplicit false

/-! # Each class has a file of its own

A name is clean if something stands between any two of its points and around them, and no slash
anywhere. Then each of its parts becomes one part of the path of the source file, with the ending
behind the last one (`parts_ofClass`), although the name is taken apart in two steps, at
its last point and then at the others, and put together again by joining paths.

The last part of such a path is the only one with a point. So none of these paths goes on from
another (`eq_of_fileParts_continues`), even where the name of a class is the package of another one:
the file of `a.b` is not the directory that the file of `a.b.C` lies in. What is written for one
class is therefore never lost to another (`ofRegistry_separates`).
-/

namespace Specimen.Java

open Specimen.Command Specimen.Files Specimen.Inference Specimen.Path Specimen.Schema
open Specimen.Text

/-! ## The path of a class with a clean name -/

/-- Between the points of a name there is something everywhere, and there is no slash. -/
def IsCleanName (name : String) : Prop :=
  ∀ part ∈ segments '.' name.toList, part ≠ [] ∧ '/' ∉ part

/-- The ending of source files. -/
def ending : List Char := ".java".toList

/-- The parts of a name between its points, with the ending of source files behind the last. -/
def fileParts (name : String) : List (List Char) :=
  (segments '.' name.toList).modifyLast (· ++ ending)

/-- The parts of a name are those of its package, if there is one, and its simple name. -/
theorem exists_packages (name : String) :
    ∃ packages, segments '.' name.toList = packages ++ [(splitQualified name).2.toList] ∧
      (segments '.' (splitQualified name).1.toList).filter (fun part => !part.isEmpty)
        = packages.filter fun part => !part.isEmpty := by
  rcases splitQualified_cases name with ⟨hname, hsimple⟩ | ⟨hsplit, hname⟩
  · refine ⟨segments '.' (splitQualified name).1.toList, ?_, rfl⟩
    -- the whole name is rewritten by its package and its simple name, which hold it themselves
    calc segments '.' name.toList
        = segments '.' ((splitQualified name).1.toList ++ '.' :: (splitQualified name).2.toList) :=
          congrArg _ hname
      _ = _ := by rw [segments_append_cons, segments_of_not_mem hsimple]
  · rw [hsplit, segments_of_not_mem hname]
    exact ⟨[], rfl, rfl⟩

theorem fileParts_eq {name : String} {packages : List (List Char)} {simple : List Char}
    (h : segments '.' name.toList = packages ++ [simple]) :
    fileParts name = packages ++ [simple ++ ending] := by
  rw [fileParts, h, List.modifyLast_concat]

/-- The parts of a clean name's path are names of directories and of a file. -/
theorem isName_of_mem_fileParts {name : String} (h : IsCleanName name) :
    ∀ part ∈ fileParts name,
      (part ≠ [] ∧ '/' ∉ part) ∧ isEmptyPart part = false ∧ part ≠ parent := by
  obtain ⟨packages, hsegments, _⟩ := exists_packages name
  rw [fileParts_eq hsegments]
  rw [IsCleanName, hsegments] at h
  intro part hpart
  rcases List.mem_append.mp hpart with hpart | hpart
  · obtain ⟨hne, hslash⟩ := h part (List.mem_append_left _ hpart)
    have hpoint : '.' ∉ part := by
      refine not_mem_of_mem_segments (s := name.toList) ?_
      rw [hsegments]
      exact List.mem_append_left _ hpart
    obtain ⟨c, hc⟩ := List.exists_mem_of_ne_nil part hne
    have hother : c ≠ '.' := by
      rintro rfl
      exact hpoint hc
    exact ⟨⟨hne, hslash⟩, isName_of_mem hc hother⟩
  · -- the last part has the letters of the ending, whatever the name is
    obtain rfl := List.mem_singleton.mp hpart
    have hsimple := h _ (List.mem_append_right _ (List.mem_singleton_self _))
    have hletter : 'j' ∈ (splitQualified name).2.toList ++ ending :=
      List.mem_append_right _ (by decide)
    have hslash : '/' ∉ (splitQualified name).2.toList ++ ending := by
      rw [List.mem_append, not_or]
      exact ⟨hsimple.2, by decide⟩
    exact ⟨⟨List.ne_nil_of_mem hletter, hslash⟩, isName_of_mem hletter (by decide)⟩

theorem path_ofClass (c : ClassDefinition) :
    (SourceFile.ofClass c).path
      = sourcePath (splitQualified c.qualifiedName).1 (splitQualified c.qualifiedName).2 := rfl

/-- **The path of a clean name's file** has the parts of the name, with the ending. -/
theorem parts_ofClass {c : ClassDefinition} (h : IsCleanName c.qualifiedName) :
    isAbsolute (SourceFile.ofClass c).path.toList = false ∧
      start (SourceFile.ofClass c).path.toList = [] ∧
      parts (SourceFile.ofClass c).path.toList = fileParts c.qualifiedName := by
  obtain ⟨packages, hsegments, hpackages⟩ := exists_packages c.qualifiedName
  have hpath : (SourceFile.ofClass c).path.toList = (fileParts c.qualifiedName).foldl join [] := by
    have hkept : packages.filter (fun part => !part.isEmpty) = packages := by
      refine List.filter_eq_self.mpr fun part hpart => ?_
      have hne := (h part (by rw [hsegments]; exact List.mem_append_left _ hpart)).1
      simpa using hne
    rw [path_ofClass, toList_sourcePath, packagePath, hpackages, hkept, fileParts_eq hsegments,
      List.foldl_append]
    rfl
  have hnames := isName_of_mem_fileParts h
  have hne : fileParts c.qualifiedName ≠ [] := by
    rw [fileParts_eq hsegments]
    exact List.append_ne_nil_of_right_ne_nil _ (List.cons_ne_nil _ _)
  -- joined one by one, the parts are the segments again, and each of them counts
  have hjoined := segments_foldl_join_nil hne fun part hpart => (hnames part hpart).1
  rw [← hpath] at hjoined
  have hcounts : ∀ part ∈ segments '/' (SourceFile.ofClass c).path.toList,
      isEmptyPart part = false := by
    rw [hjoined]
    exact fun part hpart => (hnames part hpart).2.1
  obtain ⟨hrelative, hstart, hparts⟩ := parts_of_segments hcounts
  exact ⟨hrelative, hstart, hparts.trans hjoined⟩

/-- It is compared by these parts alone. -/
theorem components_ofClass {c : ClassDefinition} (h : IsCleanName c.qualifiedName) :
    components (SourceFile.ofClass c).path.toList = fileParts c.qualifiedName := by
  obtain ⟨_, hstart, hparts⟩ := parts_ofClass h
  rw [components, hstart, hparts, List.nil_append]

/-- **No class's path goes on from another's**, because only the last part of a path has a
point. -/
theorem eq_of_fileParts_continues {name name' : String} (h : fileParts name <+: fileParts name') :
    name = name' := by
  obtain ⟨packages, hsegments, _⟩ := exists_packages name
  obtain ⟨packages', hsegments', _⟩ := exists_packages name'
  rw [fileParts_eq hsegments, fileParts_eq hsegments', List.prefix_concat_iff] at h
  rcases h with heq | hcontinues
  · obtain ⟨hpackages, hlast⟩ := List.append_inj' heq rfl
    have hsimple := List.append_cancel_right (List.singleton_inj.mp hlast)
    have hsame : segments '.' name.toList = segments '.' name'.toList := by
      rw [hsegments, hsegments', hpackages, hsimple]
    exact String.ext (segments_injective hsame)
  · have hmem : (splitQualified name).2.toList ++ ending ∈ segments '.' name'.toList := by
      rw [hsegments']
      exact List.mem_append_left _ (hcontinues.subset (by simp))
    have hpoint : '.' ∈ (splitQualified name).2.toList ++ ending :=
      List.mem_append_right _ (by decide)
    exact absurd hpoint (not_mem_of_mem_segments hmem)

/-! ## The files of a registry -/

/-- Below a directory, the path of a class goes on by its own parts. -/
theorem components_destination {c : ClassDefinition} (h : IsCleanName c.qualifiedName)
    (directory : List Char) :
    components (destination directory (SourceFile.ofClass c))
      = components directory ++ fileParts c.qualifiedName := by
  obtain ⟨hrelative, hstart, hparts⟩ := parts_ofClass h
  rw [destination, components_join hrelative (Or.inr hstart), hparts]

/-- Below a directory, a class lies where the parts of its path lead down to. -/
theorem ofPath_destination {c : ClassDefinition} (h : IsCleanName c.qualifiedName)
    (directory : List Char) :
    Location.ofPath (destination directory (SourceFile.ofClass c))
      = ⟨(Location.ofPath directory).anchor,
          (fileParts c.qualifiedName).reverse ++ (Location.ofPath directory).names⟩ := by
  obtain ⟨hrelative, _, hparts⟩ := parts_ofClass h
  have hparent : parent ∉ parts (SourceFile.ofClass c).path.toList := by
    rw [hparts]
    exact fun hmem => (isName_of_mem_fileParts h _ hmem).2.2 rfl
  rw [destination, Location.ofPath_join_of_down directory hrelative hparent, hparts]

/-- **Classes with clean names have files of their own.** If the fields of all classes have names
and the names of the classes are clean, then all classes are written, each to a path that is not
absolute and consists of the parts of its name. No two paths are the same; and below any directory
no path goes on from another one, so there are as many files as classes, and once all are written,
each of them holds what was written to it. -/
theorem ofRegistry_separates {r : Registry} (hnames : ∀ n ∈ r.keys, IsCleanName n)
    (hfields : ∀ c ∈ r.toList, c.HasNamedFields) :
    ∃ files, SourceFile.ofRegistry r = .ok files ∧
      List.Forall₂ (fun name file => isAbsolute file.path.toList = false ∧
        components file.path.toList = fileParts name) r.keys files ∧
      (files.map SourceFile.path).Nodup ∧
      ∀ directory,
        (∀ file ∈ files, ∀ other ∈ files,
          components (destination directory file) <+: components (destination directory other) →
            file = other) ∧
        destinationCount directory files = files.length ∧
        ∀ t u, writeSources directory t files = (u, none) →
          ∀ file ∈ files, u.read (destination directory file) = .ok file.contents := by
  have hclean : ∀ c ∈ r.toList, IsCleanName c.qualifiedName :=
    fun c hc => hnames _ (Keyed.key_mem_keys hc)
  -- two places in the registry have different names, so no path there goes on from the other
  have hdistinct : r.toList.Pairwise fun c d =>
      fileParts c.qualifiedName ≠ fileParts d.qualifiedName := by
    refine (List.pairwise_map.mp r.nodup).imp fun hne heq => hne ?_
    exact eq_of_fileParts_continues (heq ▸ List.prefix_refl _)
  refine ⟨_, SourceFile.ofRegistry_of_hasNamedFields hfields, ?_, ?_, fun directory => ⟨?_, ?_, ?_⟩⟩
  · rw [Keyed.keys, List.forall₂_map_left_iff, List.forall₂_map_right_iff]
    refine List.forall₂_same.mpr fun c hc => ?_
    exact ⟨(parts_ofClass (hclean c hc)).1, components_ofClass (hclean c hc)⟩
  · rw [List.map_map, List.Nodup, List.pairwise_map]
    refine hdistinct.imp_of_mem fun {c d} hc hd hne hpath => hne ?_
    rw [← components_ofClass (hclean c hc), ← components_ofClass (hclean d hd)]
    exact congrArg (fun path : String => components path.toList) hpath
  · intro file hfile other hother hcontinues
    obtain ⟨c, hc, rfl⟩ := List.mem_map.mp hfile
    obtain ⟨d, hd, rfl⟩ := List.mem_map.mp hother
    rw [components_destination (hclean c hc), components_destination (hclean d hd),
      List.prefix_append_right_inj] at hcontinues
    rw [Registry.eq_of_qualifiedName_eq hc hd (eq_of_fileParts_continues hcontinues)]
  · have hnodup : ((r.toList.map SourceFile.ofClass).map (targetOf directory)).Nodup := by
      rw [List.map_map, List.Nodup, List.pairwise_map]
      refine hdistinct.imp_of_mem fun {c d} hc hd hne heq => hne ?_
      rw [Function.comp_apply, Function.comp_apply, targetOf, targetOf,
        components_destination (hclean c hc), components_destination (hclean d hd)] at heq
      exact List.append_cancel_left heq
    rw [destinationCount_eq_card, List.toFinset_card_of_nodup hnodup, List.length_map]
  · intro t u hwrite
    refine writeSources_read hwrite ?_
    rw [List.pairwise_map]
    refine hdistinct.imp_of_mem fun {c d} hc hd hne hplace => hne ?_
    rw [ofPath_destination (hclean c hc), ofPath_destination (hclean d hd)] at hplace
    exact List.reverse_injective (List.append_cancel_right (Location.mk.inj hplace).2)

/-- Classes with and without a package, one of which is called like the package of another. -/
def nestedNames : Registry :=
  Keyed.ofList [⟨"Foo", Keyed.empty⟩, ⟨"a.b", Keyed.ofList [("x", .string)]⟩,
    ⟨"a.b.C", Keyed.empty⟩]

/-- The files of these classes lie beside the directories that have their names. -/
theorem ofRegistry_separates_nestedNames :
    ∃ files, SourceFile.ofRegistry nestedNames = .ok files ∧
      files.map SourceFile.path = ["Foo.java", "a/b.java", "a/b/C.java"] ∧
      ∃ u, writeSources "out".toList Tree.empty files = (u, none) ∧
        ∀ file ∈ files, u.read (destination "out".toList file) = .ok file.contents := by
  have hnames : ∀ n ∈ nestedNames.keys, IsCleanName n := by
    unfold IsCleanName
    decide
  have hfields : ∀ c ∈ nestedNames.toList, c.HasNamedFields := by
    unfold ClassDefinition.HasNamedFields
    decide
  obtain ⟨files, hfiles, _, _, hdirectory⟩ := ofRegistry_separates hnames hfields
  have hpaths : files = nestedNames.toList.map SourceFile.ofClass :=
    Except.ok.inj (hfiles.symm.trans (SourceFile.ofRegistry_of_hasNamedFields hfields))
  obtain ⟨u, hwrite⟩ : ∃ u, writeSources "out".toList Tree.empty files = (u, none) := by
    have hall : (writeSources "out".toList Tree.empty files).2.isNone = true := by
      rw [hpaths]
      decide +kernel
    exact ⟨_, Prod.ext rfl (Option.isNone_iff_eq_none.mp hall)⟩
  refine ⟨files, hfiles, ?_, u, hwrite, (hdirectory "out".toList).2.2 Tree.empty u hwrite⟩
  rw [hpaths]
  rfl

end Specimen.Java
