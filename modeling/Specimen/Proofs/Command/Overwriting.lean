import Mathlib.Data.Finset.Card
import Specimen.Proofs.Command.Readiness
import Specimen.Proofs.Files.Writing
import Specimen.Proofs.Java.Location

set_option autoImplicit false

/-! # The last file stays

Source files that are gathered from several inputs can lead to one place: inputs share their stems,
and classes of different inputs share their names. Then they are written one over the other. Paths
need not be written alike for that, since a slash more or less leads nowhere else.

`find?_of_writeSources` says what a run of writing leaves at any place of the tree: the text of the
last source file that leads there, and if none does, what was there before, unless nothing was there
and a directory is on the way to a file. It follows by induction over the source files from what
writing one of them leaves (`writeAt_eq_ok`). The same is left by the source files in front of one
that cannot be written (`exists_last_of_writeSources_eq_some`).

The number that is told behind it counts paths by their components, not places. It is the number of
files nevertheless (`runClasses_lastWins`): paths that are not absolute and do not lead back up go
down from the directory, each to a place of its own components.
-/

namespace Specimen.Command

open Specimen.Files Specimen.Inference Specimen.Java Specimen.Path Specimen.Schema

/-! ## Last elements -/

section Last

variable {α β γ : Type} {p q : α → Prop} {xs : List α} {x last : α}

/-- An element is the last one of a list with a property. -/
def IsLastWith (p : α → Prop) (xs : List α) (last : α) : Prop :=
  ∃ before after, xs = before ++ last :: after ∧ p last ∧ ∀ later ∈ after, ¬ p later

theorem IsLastWith.mem (h : IsLastWith p xs last) : last ∈ xs := by
  obtain ⟨before, after, rfl, _, _⟩ := h
  simp

theorem IsLastWith.holds (h : IsLastWith p xs last) : p last := by
  obtain ⟨_, _, _, hlast, _⟩ := h
  exact hlast

theorem IsLastWith.cons (x : α) (h : IsLastWith p xs last) : IsLastWith p (x :: xs) last := by
  obtain ⟨before, after, rfl, hlast, hafter⟩ := h
  exact ⟨x :: before, after, rfl, hlast, hafter⟩

theorem isLastWith_head (hx : p x) (hxs : ∀ y ∈ xs, ¬ p y) : IsLastWith p (x :: xs) x :=
  ⟨[], xs, rfl, hx, hxs⟩

theorem IsLastWith.congr (h : IsLastWith p xs last) (hpq : ∀ y ∈ xs, p y ↔ q y) :
    IsLastWith q xs last := by
  obtain ⟨before, after, rfl, hlast, hafter⟩ := h
  refine ⟨before, after, rfl, (hpq last (by simp)).mp hlast, fun later hlater hq => ?_⟩
  exact hafter later hlater ((hpq later (by simp [hlater])).mpr hq)

/-- If the last element of a list has the property, it is the last one with it. -/
theorem IsLastWith.eq_of_concat (h : IsLastWith p (xs ++ [x]) last) (hx : p x) : last = x := by
  obtain ⟨before, after, hsplit, _, hafter⟩ := h
  rcases after.eq_nil_or_concat with rfl | ⟨after, y, rfl⟩
  · exact (List.singleton_inj.mp (List.append_inj' hsplit rfl).2).symm
  · rw [List.concat_eq_append, ← List.cons_append, ← List.append_assoc] at hsplit
    obtain rfl := List.singleton_inj.mp (List.append_inj' hsplit rfl).2
    exact absurd hx (hafter x (by simp))

/-- Functions that tell the same elements of a list apart take as many values on it. -/
theorem card_toFinset_map_congr [DecidableEq β] [DecidableEq γ] {f : α → β} {g : α → γ}
    (h : ∀ x ∈ xs, ∀ y ∈ xs, f x = f y ↔ g x = g y) :
    (xs.map f).toFinset.card = (xs.map g).toFinset.card := by
  induction xs with
  | nil => rfl
  | cons x xs ih =>
      have hrest := ih fun y hy z hz =>
        h y (List.mem_cons_of_mem x hy) z (List.mem_cons_of_mem x hz)
      have hmem : f x ∈ (xs.map f).toFinset ↔ g x ∈ (xs.map g).toFinset := by
        simp only [List.mem_toFinset, List.mem_map]
        refine exists_congr fun y => and_congr_right fun hy => ?_
        exact h y (List.mem_cons_of_mem x hy) x List.mem_cons_self
      rw [List.map_cons, List.map_cons, List.toFinset_cons, List.toFinset_cons,
        Finset.card_insert_eq_ite, Finset.card_insert_eq_ite, hrest]
      exact if_congr hmem rfl rfl

end Last

/-! ## Source files of several inputs -/

section Gathered

variable {entries : List (Input × Schema)} {sources : List SourceFile} {source : SourceFile}

/-- A source file is that of a class of one of the inputs. -/
theorem exists_class_of_mem_sourcesOf (h : sourcesOf entries = .ok sources)
    (hsource : source ∈ sources) :
    ∃ entry ∈ entries, ∃ n ∈ entry.2.registry.keys,
      source.path = sourcePath (splitQualified n).1 (splitQualified n).2 := by
  induction entries generalizing sources with
  | nil =>
      cases h
      cases hsource
  | cons entry entries ih =>
      obtain ⟨own, others, hown, hothers, rfl⟩ := sourcesOf_cons_eq_ok_iff.mp h
      rcases List.mem_append.mp hsource with hsource | hsource
      · obtain ⟨n, hn, hpath⟩ := exists_class_of_mem_files hown hsource
        exact ⟨entry, List.mem_cons_self, n, hn, hpath⟩
      · obtain ⟨other, hother, hclass⟩ := ih hothers hsource
        exact ⟨other, List.mem_cons_of_mem entry hother, hclass⟩

/-- No path of a source file starts at a single point. -/
theorem start_of_mem_sourcesOf (h : sourcesOf entries = .ok sources) (hsource : source ∈ sources)
    (hrelative : isAbsolute source.path.toList = false) : start source.path.toList = [] := by
  obtain ⟨_, _, n, _, hpath⟩ := exists_class_of_mem_sourcesOf h hsource
  rw [hpath] at hrelative ⊢
  exact start_sourcePath (point_not_mem_splitQualified n) hrelative

end Gathered

/-! ## Writing in order -/

section Writing

variable {t u : Tree} {directory : List Char} {sources : List SourceFile} {source : SourceFile}

/-- Where a source file lies below a directory. -/
def placeOf (directory : List Char) (source : SourceFile) : Location :=
  .ofPath (destination directory source)

/-- **What is at a place** when source files have been written one after the other. -/
theorem find?_of_writeSources (h : writeSources directory t sources = (u, none))
    (place : Location) :
    (∃ last, IsLastWith (fun source => placeOf directory source = place) sources last ∧
      u.find? place = some (.file (.text last.contents))) ∨
    ((∀ source ∈ sources, placeOf directory source ≠ place) ∧
      (u.find? place = t.find? place ∨
        (t.find? place = none ∧ u.find? place = some .directory))) := by
  induction sources generalizing t with
  | nil =>
      obtain rfl := (Prod.mk.inj h).1
      exact Or.inr ⟨by simp, Or.inl rfl⟩
  | cons source sources ih =>
      obtain ⟨v, hwrite, hrest⟩ := exists_of_writeSources_cons h
      obtain ⟨w, hgrown, _, _, hfind⟩ := writeAt_eq_ok hwrite
      rw [← placeOf] at hfind
      rcases ih hrest with ⟨last, hlast, hfile⟩ | ⟨hnone, hkept⟩
      · -- a later source file leads there, whatever the first one does
        exact Or.inl ⟨last, hlast.cons source, hfile⟩
      · by_cases hplace : placeOf directory source = place
        · -- only the first source file leads there, and its text stays
          have hwritten : v.find? place = some (.file (.text source.contents)) := by
            rw [hfind, if_pos hplace.symm]
          refine Or.inl ⟨source, isLastWith_head hplace hnone, ?_⟩
          rcases hkept with hsame | ⟨hmissing, _⟩
          · rw [hsame, hwritten]
          · rw [hwritten] at hmissing
            cases hmissing
        · have hleft : v.find? place = w.find? place := by
            rw [hfind, if_neg (Ne.symm hplace)]
          rw [hleft] at hkept
          refine Or.inr ⟨?_, Tree.grownAt_trans (hgrown place) hkept⟩
          exact List.forall_mem_cons.mpr ⟨hplace, hnone⟩

theorem keepsDirectories_of_writeSources (h : writeSources directory t sources = (u, none)) :
    t.KeepsDirectories u := by
  induction sources generalizing t with
  | nil =>
      obtain rfl := (Prod.mk.inj h).1
      exact fun _ hl => hl
  | cons source sources ih =>
      obtain ⟨v, hwrite, hrest⟩ := exists_of_writeSources_cons h
      obtain ⟨w, hgrown, hkeeps, _, _⟩ := writeAt_eq_ok hwrite
      exact (hgrown.keepsDirectories.trans hkeeps).trans (ih hrest)

/-- The way to each source file is open when all have been written. -/
theorem locate_of_writeSources (h : writeSources directory t sources = (u, none))
    (hsource : source ∈ sources) :
    u.locate (destination directory source) = .ok (placeOf directory source) := by
  induction sources generalizing t with
  | nil => cases hsource
  | cons first sources ih =>
      obtain ⟨v, hwrite, hrest⟩ := exists_of_writeSources_cons h
      rcases List.mem_cons.mp hsource with rfl | hsource
      · obtain ⟨w, _, hkeeps, hlocate, _⟩ := writeAt_eq_ok hwrite
        exact (hkeeps.trans (keepsDirectories_of_writeSources hrest)).locate hlocate
      · exact ih hrest hsource

/-- **The last source file that leads to a place is read there**, at the path of each source file
that leads to it. -/
theorem exists_last_of_writeSources (h : writeSources directory t sources = (u, none))
    (hsource : source ∈ sources) :
    ∃ last, IsLastWith (fun other => placeOf directory other = placeOf directory source)
        sources last ∧
      u.read (destination directory source) = .ok last.contents := by
  rcases find?_of_writeSources h (placeOf directory source) with ⟨last, hlast, hfile⟩ | ⟨hnone, _⟩
  · exact ⟨last, hlast, Tree.read_eq_ok_iff.mpr ⟨locate_of_writeSources h hsource, hfile⟩⟩
  · exact absurd rfl (hnone source hsource)

/-- **What was written stays when writing stops.** Some source file cannot be written; at the path
of each one in front of it the last one is read that leads to its place and has been written. -/
theorem exists_last_of_writeSources_eq_some {failure : RunFailure}
    (h : writeSources directory t sources = (u, some failure)) :
    ∃ before stopped after, sources = before ++ stopped :: after ∧
      ∀ source ∈ before, ∃ last,
        IsLastWith (fun other => placeOf directory other = placeOf directory source) before last ∧
        u.read (destination directory source) = .ok last.contents := by
  obtain ⟨before, stopped, after, v, hsplit, hbefore, _, hgrown⟩ :=
    exists_of_writeSources_eq_some h
  refine ⟨before, stopped, after, hsplit, fun source hsource => ?_⟩
  obtain ⟨last, hlast, hread⟩ := exists_last_of_writeSources hbefore hsource
  exact ⟨last, hlast, hgrown.read hread⟩

end Writing

/-! ## Destinations and places -/

/-- Paths that lead down are told apart by their components exactly if they lead to different
places. Only a point in front counts as a component and leads nowhere, which matters if nothing
stands in front of it. -/
theorem targetOf_eq_iff {directory : List Char} {source other : SourceFile}
    (h : isAbsolute source.path.toList = false ∧ parent ∉ parts source.path.toList)
    (h' : isAbsolute other.path.toList = false ∧ parent ∉ parts other.path.toList)
    (hstart : directory ≠ [] ∨ start source.path.toList = [])
    (hstart' : directory ≠ [] ∨ start other.path.toList = []) :
    targetOf directory source = targetOf directory other ↔
      placeOf directory source = placeOf directory other :=
  (components_join_inj h.1 h'.1 hstart hstart').trans (Location.ofPath_join_inj directory h h').symm

/-! ## Runs -/

/-- If no source file fails, all have been written and their number is told. -/
theorem Request.exists_of_runClasses {r : Request} {files : Tree} {directory : String}
    {sources : List SourceFile} (houtput : r.output = some directory)
    (hsuccess : (r.runClasses files sources).failure = none) :
    ∃ u, writeSources directory.toList files sources = (u, none) ∧
      (r.runClasses files sources).files = u ∧
      ∃ count, (r.runClasses files sources).notice
          = s!"generated {count} class file(s) under {directory}\n" ∧
        count = destinationCount directory.toList sources := by
  simp only [runClasses, houtput] at hsuccess ⊢
  cases hwrite : writeSources directory.toList files sources with
  | mk u failure =>
      rw [hwrite] at hsuccess
      cases failure with
      | some failure => cases hsuccess
      | none => exact ⟨u, rfl, rfl, _, rfl, rfl⟩

/-- **The last writer wins, and the count is faithful.** Source files whose paths are neither
absolute nor lead back up are written below a directory, and nothing fails. They may be any source
files if the directory's path is not empty, which a command line ensures; below the empty path they
have to be those of the classes of some inputs, none of which has a path that starts at a point.
Then:

* at the path of each source file the text is read of the last one with the same destination, where
  destinations are compared by components;
* at all places that none of them leads to is what was there before, unless nothing was there and a
  directory was created;
* the number that is told is that of different destinations, and also of different places that the
  source files lead to. -/
theorem Request.runClasses_lastWins {r : Request} {files : Tree} {directory : String}
    {sources : List SourceFile} (houtput : r.output = some directory)
    (hdown : ∀ source ∈ sources,
      isAbsolute source.path.toList = false ∧ parent ∉ parts source.path.toList)
    (hgathered : directory ≠ "" ∨ ∃ entries, sourcesOf entries = .ok sources)
    (hsuccess : (r.runClasses files sources).failure = none) :
    (∀ source ∈ sources, ∃ last,
      IsLastWith
        (fun other => targetOf directory.toList other = targetOf directory.toList source)
        sources last ∧
      (r.runClasses files sources).files.read (destination directory.toList source)
        = .ok last.contents) ∧
    (∀ place, (∀ source ∈ sources, placeOf directory.toList source ≠ place) →
      (r.runClasses files sources).files.find? place = files.find? place ∨
        (files.find? place = none ∧
          (r.runClasses files sources).files.find? place = some .directory)) ∧
    ∃ count, (r.runClasses files sources).notice
        = s!"generated {count} class file(s) under {directory}\n" ∧
      count = (sources.map (targetOf directory.toList)).toFinset.card ∧
      count = (sources.map (placeOf directory.toList)).toFinset.card := by
  obtain ⟨u, hwrite, rfl, count, hnotice, rfl⟩ := exists_of_runClasses houtput hsuccess
  have hstart : ∀ source ∈ sources, directory.toList ≠ [] ∨ start source.path.toList = [] := by
    intro source hsource
    rcases hgathered with hdirectory | ⟨entries, hentries⟩
    · exact Or.inl (by simpa using hdirectory)
    · exact Or.inr (start_of_mem_sourcesOf hentries hsource (hdown source hsource).1)
  have hsame : ∀ source ∈ sources, ∀ other ∈ sources,
      targetOf directory.toList source = targetOf directory.toList other ↔
        placeOf directory.toList source = placeOf directory.toList other := by
    intro source hsource other hother
    exact targetOf_eq_iff (hdown source hsource) (hdown other hother) (hstart source hsource)
      (hstart other hother)
  refine ⟨?_, ?_, _, hnotice, ?_, ?_⟩
  · intro source hsource
    obtain ⟨last, hlast, hread⟩ := exists_last_of_writeSources hwrite hsource
    exact ⟨last, hlast.congr fun other hother => (hsame other hother source hsource).symm, hread⟩
  · intro place hplace
    rcases find?_of_writeSources hwrite place with ⟨last, hlast, _⟩ | ⟨_, hkept⟩
    · exact absurd hlast.holds (hplace last hlast.mem)
    · exact hkept
  · exact destinationCount_eq_card _ _
  · rw [destinationCount_eq_card]
    exact card_toFinset_map_congr hsame

/-- Source files with three paths, two of which lead to one place. -/
def doubledSources : List SourceFile :=
  [⟨"p//A.java", "first"⟩, ⟨"p/B.java", "other"⟩, ⟨"p/A.java", "second"⟩]

/-- Two files are told, and the later text is read at the path of the earlier source file. -/
theorem Request.runClasses_lastWins_doubled :
    (((plainRequest .classes [] (some "out")).runClasses Tree.empty doubledSources).failure = none ∧
      ∀ source ∈ doubledSources,
        isAbsolute source.path.toList = false ∧ parent ∉ parts source.path.toList) ∧
    ((plainRequest .classes [] (some "out")).runClasses Tree.empty doubledSources).notice
      = "generated 2 class file(s) under out\n" ∧
    ((plainRequest .classes [] (some "out")).runClasses Tree.empty doubledSources).files.read
      "out/p//A.java".toList = .ok "second" := by
  have hdown : ∀ source ∈ doubledSources,
      isAbsolute source.path.toList = false ∧ parent ∉ parts source.path.toList := by decide
  have hsuccess : ((plainRequest .classes [] (some "out")).runClasses Tree.empty
      doubledSources).failure = none := by
    refine Option.isNone_iff_eq_none.mp ?_
    decide +kernel
  obtain ⟨hlast, _, count, hnotice, hcount, _⟩ :=
    Request.runClasses_lastWins (r := plainRequest .classes [] (some "out")) rfl hdown
      (Or.inl (by decide)) hsuccess
  obtain ⟨last, hlast, hread⟩ := hlast ⟨"p//A.java", "first"⟩ (by decide)
  -- the last source file of all has the same destination
  have hend : doubledSources
      = [⟨"p//A.java", "first"⟩, ⟨"p/B.java", "other"⟩] ++ [⟨"p/A.java", "second"⟩] := rfl
  rw [hend] at hlast
  obtain rfl := hlast.eq_of_concat (by decide)
  obtain rfl : count = 2 := hcount.trans (by decide)
  exact ⟨⟨hsuccess, hdown⟩, hnotice, hread⟩

end Specimen.Command
