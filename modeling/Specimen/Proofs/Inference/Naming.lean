import Specimen.Path
import Specimen.Proofs.Inference.Qualified
import Specimen.Proofs.Inference.Sampled
import Specimen.Proofs.Schema.Representative
import Specimen.Proofs.Success
import Specimen.Proofs.Text.Segments
import Specimen.Proofs.Text.UpperCase

set_option autoImplicit false

/-! # How classes come by their names

A class is named after a part of the document, by its name as it is, with its first character in
upper case, or as the singular of such a name, over and over for lists in lists. A property of
names that both steps keep (`IsKeptByNaming`) and that all names in a document have is one of the
names of all classes (`IsKeptByNaming.sampled`).

The property that matters to where a class's file lies is `IsRelativeName`: nowhere in front of a
name or behind a point in it stands a slash.
-/

namespace Specimen.Inference

open Specimen.Document Specimen.Schema Specimen.Text

/-! ## The two steps -/

/-- A property of names that the steps from a part's name to a class's name keep. -/
structure IsKeptByNaming (P : String → Prop) : Prop where
  /-- The first character is put in upper case. -/
  capitalize : ∀ {m n : String}, P m → Inference.capitalize m = .ok n → P n
  /-- A list's elements are named after the list. -/
  singular : ∀ {n : String}, P n → P (Inference.singular n)

theorem exists_of_capitalize {m n : String} (h : capitalize m = .ok n) :
    ∃ c r, m.toList = c :: r ∧ n.toList = upperCase c ++ r := by
  unfold capitalize at h
  cases hm : m.toList with
  | nil =>
      simp only [hm] at h
      cases h
  | cons c r =>
      simp only [hm] at h
      cases h
      exact ⟨c, r, rfl, String.toList_ofList⟩

/-- **What a singular looks like**: `ies` has become `y`, an `s` is gone, or the name stays. -/
theorem singular_cases (n : String) :
    (∃ stem, n.toList = stem ++ iesEnding ∧ (singular n).toList = stem ++ ['y']) ∨
      (∃ stem, stem ≠ [] ∧ n.toList = stem ++ ['s'] ∧ (singular n).toList = stem) ∨
      singular n = n := by
  unfold singular
  by_cases hies : iesEnding.reverse.isPrefixOf n.toList.reverse = true
  · obtain ⟨rest, hrest⟩ := List.isPrefixOf_iff_prefix.mp hies
    refine Or.inl ⟨rest.reverse, ?_, ?_⟩
    · have hreverse := congrArg List.reverse hrest
      simpa using hreverse.symm
    · rw [if_pos hies, ← hrest]
      simp [iesEnding]
  · rw [if_neg hies]
    right
    split
    · next c r hrest =>
        refine Or.inl ⟨(c :: r).reverse, by simp, ?_, by simp⟩
        have hreverse := congrArg List.reverse hrest
        simpa using hreverse
    · exact Or.inr rfl

/-- The first character is a point in upper case exactly if it is one. -/
theorem point_mem_capitalize_iff {m n : String} (h : capitalize m = .ok n) :
    '.' ∈ n.toList ↔ '.' ∈ m.toList := by
  obtain ⟨c, r, hm, hn⟩ := exists_of_capitalize h
  have hupper : '.' ∈ upperCase c ↔ '.' = c := by
    constructor
    · intro hpoint
      rcases eq_or_le_of_mem_upperCase hpoint with heq | hle
      · exact heq
      · exact absurd hle (by decide)
    · rintro rfl
      decide
  rw [hm, hn, List.mem_append, List.mem_cons, hupper]

/-- Names without points stay so. -/
theorem isKeptByNaming_pointless : IsKeptByNaming fun n => '.' ∉ n.toList where
  capitalize hm hn := mt (point_mem_capitalize_iff hn).mp hm
  singular := by
    intro n hn
    rcases singular_cases n with ⟨stem, hstem, hs⟩ | ⟨stem, _, hstem, hs⟩ | hs
    · rw [hstem, List.mem_append, not_or] at hn
      simp [hs, hn.1]
    · rw [hstem, List.mem_append, not_or] at hn
      rw [hs]
      exact hn.1
    · rwa [hs]

/-! ## The names in a document -/

mutual

/-- The names of a document's parts, without the indices of the elements of arrays. -/
def partNames : Element → List String
  | .scalar _ => []
  | .container origin _ children => childNames origin children

/-- The names of children and of the parts inside them. -/
def childNames (origin : Origin) : List (String × Element) → List String
  | [] => []
  | (name, child) :: others =>
    (if origin = .jsonArray then [] else [name]) ++ partNames child ++ childNames origin others

end

/-- Arrays are never objects. -/
theorem origin_ne_of_containerShape_object {origin : Origin} {attributes : List (String × String)}
    {children : List (String × Element)}
    (h : containerShape origin attributes children = .ok .object) : origin ≠ .jsonArray := by
  rintro rfl
  simp only [containerShape] at h
  split_ifs at h
  cases h

section Kept

variable {P : String → Prop}

mutual

/-- **Names of classes have what all names in the document have.** -/
theorem IsKeptByNaming.sampled (hP : IsKeptByNaming P) :
    ∀ (name : String) (element : Element), P name → (∀ n ∈ partNames element, P n) →
      ∀ o ∈ sampledObjects name element, P o.name
  | _, .scalar _, _, _ => by simp [sampledObjects]
  | name, .container origin attributes children, hname, hparts => by
      rw [partNames] at hparts
      rw [sampledObjects]
      cases hshape : containerShape origin attributes children with
      | error f => simp
      | ok shape =>
          cases shape with
          | null => simp
          | list => exact hP.sampledFirst origin name children hname hparts
          | object =>
              have horigin := origin_ne_of_containerShape_object hshape
              intro o ho
              rcases List.mem_append.mp ho with ho | ho
              · exact hP.sampledChildren horigin children hparts o ho
              · rw [List.mem_singleton.mp ho]
                exact hname

theorem IsKeptByNaming.sampledFirst (hP : IsKeptByNaming P) (origin : Origin) (name : String) :
    ∀ (children : List (String × Element)), P name → (∀ n ∈ childNames origin children, P n) →
      ∀ o ∈ sampledInFirst origin name children, P o.name
  | [], _, _ => by simp [sampledInFirst]
  | (tag, first) :: others, hname, hparts => by
      rw [childNames] at hparts
      rw [sampledInFirst]
      have hfirst : ∀ n ∈ partNames first, P n := fun n hn =>
        hparts n (List.mem_append_left _ (List.mem_append_right _ hn))
      refine hP.sampled _ first ?_ hfirst
      split_ifs with horigin
      · refine hparts tag (List.mem_append_left _ (List.mem_append_left _ ?_))
        simp [horigin]
      · exact hP.singular hname

theorem IsKeptByNaming.sampledChildren (hP : IsKeptByNaming P) {origin : Origin}
    (horigin : origin ≠ .jsonArray) :
    ∀ (children : List (String × Element)), (∀ n ∈ childNames origin children, P n) →
      ∀ o ∈ sampledInChildren children, P o.name
  | [], _ => by simp [sampledInChildren]
  | (field, child) :: others, hparts => by
      rw [childNames, if_neg horigin] at hparts
      rw [sampledInChildren]
      have hothers := hP.sampledChildren horigin others
        (fun n hn => hparts n (List.mem_append_right _ hn))
      cases hname : Inference.capitalize field with
      | error f => exact hothers
      | ok name =>
          have hfield : P field := hparts field (by simp)
          have hchild := hP.sampled name child (hP.capitalize hfield hname)
            (fun n hn => hparts n (List.mem_append_left _ (List.mem_append_right _ hn)))
          intro o ho
          rcases List.mem_append.mp ho with ho | ho
          · exact hchild o ho
          · exact hothers o ho

end

end Kept

theorem exists_splitRoot_of_infer {options : Options} {rootName : String} {element : Element}
    {s : Schema} (h : infer options rootName element = .ok s) :
    ∃ package name, splitRoot rootName = .ok (package, name) := by
  obtain ⟨unmerged, hrun, -⟩ := exists_of_map_eq_ok h
  unfold run at hrun
  split at hrun
  · cases hrun
  · next package name hroot => exact ⟨package, name, hroot⟩

/-- What holds of the schema of a run and is kept by merging holds of the schema of a document. -/
@[elab_as_elim]
theorem infer_invariant {P : Schema → Prop} {options : Options} {rootName : String}
    {element : Element} (hrun : ∀ u, run options rootName element = .ok u → P u)
    (hmerge : ∀ u : Schema, P u → P u.merge) {s : Schema}
    (hinfer : infer options rootName element = .ok s) : P s := by
  obtain ⟨u, hu, rfl⟩ := exists_of_map_eq_ok hinfer
  split_ifs
  · exact hmerge u (hrun u hu)
  · exact hrun u hu

/-- Each registered class is that of a sampled object. -/
theorem exists_sampled_of_run {options : Options} {rootName package name : String}
    {element : Element} {s : Schema} (hroot : splitRoot rootName = .ok (package, name))
    (hrun : run options rootName element = .ok s) {c : ClassDefinition}
    (hc : c ∈ s.registry.toList) :
    ∃ o ∈ sampledObjects name element, o.class? options.stringTyping package = .ok c := by
  obtain ⟨hresult, hregistry⟩ := listing_of_run hroot hrun
  have hsettled : s.registry.toList = Keyed.settled ClassDefinition.qualifiedName
      (listing options.stringTyping package name element).classes := by
    rw [hregistry]
    exact Keyed.toList_ofList _
  rw [hsettled] at hc
  have hlisted := (Keyed.of_lastWith_eq_some (Keyed.mem_settled.mp hc)).1
  exact exists_sampled_of_mem_classes hresult hlisted

/-- **A class is named after a sampled object**, whether identical classes are merged or not. -/
theorem exists_sampled_of_mem_keys {options : Options} {rootName package name : String}
    {element : Element} {s : Schema} (hroot : splitRoot rootName = .ok (package, name))
    (hinfer : infer options rootName element = .ok s) {n : String} (hn : n ∈ s.registry.keys) :
    ∃ o ∈ sampledObjects name element, n = qualify package o.name := by
  have hall : ∀ n ∈ s.registry.keys,
      ∃ o ∈ sampledObjects name element, n = qualify package o.name := by
    refine infer_invariant (fun u hrun n hn => ?_) (fun u hu n hn => ?_) hinfer
    · obtain ⟨c, hc, rfl⟩ := List.mem_map.mp hn
      obtain ⟨o, ho, hoc⟩ := exists_sampled_of_run hroot hrun hc
      exact ⟨o, ho, SampledObject.qualifiedName_of_class? hoc⟩
    · exact hu n (u.represents_merge.keys_subset hn)
  exact hall n hn

/-! ## Names without a slash in front -/

/-- No part of a name between its points starts with a slash. -/
def IsRelativeName (name : String) : Prop :=
  ∀ part ∈ segments '.' name.toList, Path.isAbsolute part = false

/-- Two neighbours in a text are not a point and a slash. -/
def NoPointSlash (a b : Char) : Prop := ¬ (a = '.' ∧ b = '/')

theorem isRelativeName_iff {name : String} :
    IsRelativeName name ↔ ('.' :: name.toList).IsChain NoPointSlash := by
  refine Iff.trans (forall₂_congr fun part _ => ?_) (segments_avoid_iff (by decide) name.toList)
  rw [← Bool.not_eq_true, Path.isAbsolute, beq_iff_eq]

theorem isRelativeName_of_not_mem {name : String} (h : '/' ∉ name.toList) :
    IsRelativeName name := by
  intro part hpart
  rw [← Bool.not_eq_true, Path.isAbsolute, beq_iff_eq]
  intro hhead
  exact h ((sublist_of_mem_segments hpart).subset (List.mem_of_head? hhead))

theorem isRelativeName_qualify {package name : String} :
    IsRelativeName (qualify package name) ↔ IsRelativeName package ∧ IsRelativeName name := by
  simp only [IsRelativeName, toList_qualify, segments_append_cons, List.mem_append, or_imp,
    forall_and]

theorem IsRelativeName.of_capitalize {m n : String} (h : IsRelativeName m)
    (hcapitalize : capitalize m = .ok n) : IsRelativeName n := by
  obtain ⟨c, r, hm, hn⟩ := exists_of_capitalize hcapitalize
  rw [isRelativeName_iff, hm, List.isChain_cons_cons] at h
  have hslash : ∀ d ∈ upperCase c, d ≠ '/' := by
    rintro d hd rfl
    rcases eq_or_le_of_mem_upperCase hd with rfl | hle
    · exact h.1 ⟨rfl, rfl⟩
    · exact absurd hle (by decide)
  rw [isRelativeName_iff, hn, List.isChain_cons, List.isChain_append]
  -- the neighbours are a point and the upper case, two inside it, and it and what follows
  refine ⟨fun d hd hpair => ?_, ?_, h.2.tail, fun d hd e he hpair => ?_⟩
  · rw [Option.mem_def, List.head?_append_of_ne_nil _ (upperCase_ne_nil c)] at hd
    exact hslash d (List.mem_of_head? hd) hpair.2
  · refine List.Pairwise.isChain (List.pairwise_of_forall_mem_list ?_)
    exact fun d _ e he hpair => hslash e he hpair.2
  · rcases eq_or_le_of_mem_upperCase (List.mem_of_getLast? hd) with rfl | hle
    · exact h.2.rel_head? he hpair
    · rw [hpair.1] at hle
      exact absurd hle (by decide)

theorem IsRelativeName.singular {n : String} (h : IsRelativeName n) :
    IsRelativeName (singular n) := by
  rcases singular_cases n with ⟨stem, hn, hs⟩ | ⟨stem, _, hn, hs⟩ | hs
  · rw [isRelativeName_iff, hn, ← List.cons_append] at h
    rw [isRelativeName_iff, hs, ← List.cons_append, List.isChain_append]
    refine ⟨h.left_of_append, List.isChain_singleton _, fun d _ e he hpair => ?_⟩
    obtain rfl : e = 'y' := by simpa using he.symm
    exact absurd hpair.2 (by decide)
  · rw [isRelativeName_iff, hn, ← List.cons_append] at h
    rw [isRelativeName_iff, hs]
    exact h.left_of_append
  · rwa [hs]

theorem isKeptByNaming_isRelativeName : IsKeptByNaming IsRelativeName :=
  ⟨IsRelativeName.of_capitalize, IsRelativeName.singular⟩

end Specimen.Inference
