import Mathlib.Tactic.SplitIfs
import Specimen.Inference.Name

set_option autoImplicit false

/-! # Qualified names

Splitting a qualified name at its last point gives back what was joined exactly if the simple name
has no point (`splitQualified_qualify_iff`), and joining gives back what was split if there is a
point at all (`qualify_splitQualified`). The name of a root class has to have both parts, and
neither may be empty (`splitRoot_eq_ok_iff`, `exists_splitRoot_iff`).
-/

namespace Specimen.Inference

open Specimen.Text

theorem toList_qualify (package name : String) :
    (qualify package name).toList = package.toList ++ '.' :: name.toList := by
  simp [qualify]

theorem splitQualified_cases (name : String) :
    (name.toList = (splitQualified name).1.toList ++ '.' :: (splitQualified name).2.toList ∧
        '.' ∉ (splitQualified name).2.toList) ∨
      (splitQualified name = ("", name) ∧ '.' ∉ name.toList) := by
  unfold splitQualified
  cases h : splitAtLast '.' name.toList with
  | none => exact Or.inr ⟨rfl, splitAtLast_eq_none_iff.mp h⟩
  | some p =>
      obtain ⟨package, simple⟩ := p
      simpa using Or.inl (eq_append_of_splitAtLast h)

theorem point_not_mem_splitQualified (name : String) : '.' ∉ (splitQualified name).2.toList := by
  rcases splitQualified_cases name with ⟨_, h⟩ | ⟨hsplit, h⟩
  · exact h
  · rwa [hsplit]

/-- **Splitting undoes qualifying** exactly for simple names without a point. -/
theorem splitQualified_qualify_iff {package name : String} :
    splitQualified (qualify package name) = (package, name) ↔ '.' ∉ name.toList := by
  constructor
  · intro h
    have hpoint := point_not_mem_splitQualified (qualify package name)
    rwa [h] at hpoint
  · intro h
    rw [splitQualified, toList_qualify, splitAtLast_append h]
    simp

/-- Qualifying undoes splitting for names with a point. -/
theorem qualify_splitQualified {name : String} (h : '.' ∈ name.toList) :
    qualify (splitQualified name).1 (splitQualified name).2 = name := by
  rcases splitQualified_cases name with ⟨hname, _⟩ | ⟨_, hpoint⟩
  · refine String.ext ?_
    rw [toList_qualify, ← hname]
  · exact absurd h hpoint

/-- There is only one way to split at the last point. -/
theorem eq_of_qualify_eq {package package' name name' : String} (hname : '.' ∉ name.toList)
    (hname' : '.' ∉ name'.toList) (h : qualify package name = qualify package' name') :
    package = package' ∧ name = name' := by
  have hsplit : splitQualified (qualify package name) = (package, name) :=
    splitQualified_qualify_iff.mpr hname
  rw [h, splitQualified_qualify_iff.mpr hname', Prod.mk.injEq] at hsplit
  exact ⟨hsplit.1.symm, hsplit.2.symm⟩

/-! ## Names of root classes -/

/-- **What a root name has to be**: a package and a simple name, both of which are there. -/
theorem splitRoot_eq_ok_iff {rootName package name : String} :
    splitRoot rootName = .ok (package, name) ↔
      rootName = qualify package name ∧ '.' ∉ name.toList ∧ package ≠ "" ∧ name ≠ "" := by
  unfold splitRoot
  constructor
  · intro h
    split at h
    · cases h
    · next before after hsplit =>
        split_ifs at h with hempty
        cases h
        obtain ⟨hlist, hafter⟩ := eq_append_of_splitAtLast hsplit
        rw [Bool.or_eq_true_iff, not_or, List.isEmpty_iff, List.isEmpty_iff] at hempty
        refine ⟨String.ext ?_, by rwa [String.toList_ofList], fun h => hempty.1 ?_,
          fun h => hempty.2 ?_⟩
        · rw [hlist, toList_qualify, String.toList_ofList, String.toList_ofList]
        · simpa using congrArg String.toList h
        · simpa using congrArg String.toList h
  · rintro ⟨rfl, hpoint, hpackage, hname⟩
    have hempty : ¬ (package.toList.isEmpty || name.toList.isEmpty) = true := by
      simp [hpackage, hname]
    rw [toList_qualify, splitAtLast_append hpoint]
    dsimp only
    rw [if_neg hempty, String.ofList_toList, String.ofList_toList]

theorem eq_qualify_of_splitRoot {rootName package name : String}
    (h : splitRoot rootName = .ok (package, name)) : rootName = qualify package name :=
  (splitRoot_eq_ok_iff.mp h).1

/-- A root name without a point, or with nothing in front of its last point or behind it. -/
def LacksPart (rootName : String) : Prop :=
  '.' ∉ rootName.toList ∨
    ∃ package name, rootName = qualify package name ∧ '.' ∉ name.toList ∧
      (package = "" ∨ name = "")

/-- **A root name is refused exactly if it lacks a part.** -/
theorem exists_splitRoot_iff (rootName : String) :
    (∃ package name, splitRoot rootName = .ok (package, name)) ↔ ¬ LacksPart rootName := by
  simp only [splitRoot_eq_ok_iff]
  constructor
  · rintro ⟨package, name, rfl, hpoint, hpackage, hname⟩
      (h | ⟨package', name', heq, hpoint', hpart⟩)
    · rw [toList_qualify] at h
      simp at h
    · obtain ⟨rfl, rfl⟩ := eq_of_qualify_eq hpoint hpoint' heq
      exact hpart.elim hpackage hname
  · intro h
    obtain ⟨hpoint, hparts⟩ := not_or.mp h
    have heq := qualify_splitQualified (Decidable.not_not.mp hpoint)
    have hsimple := point_not_mem_splitQualified rootName
    refine ⟨_, _, heq.symm, hsimple, ?_, ?_⟩
    · exact fun hpackage => hparts ⟨_, _, heq.symm, hsimple, Or.inl hpackage⟩
    · exact fun hname => hparts ⟨_, _, heq.symm, hsimple, Or.inr hname⟩

theorem kind_of_splitRoot_eq_error {rootName : String} {f : Failure}
    (h : splitRoot rootName = .error f) : f.kind = .invalidArgument := by
  unfold splitRoot at h
  split at h
  · cases h
    rfl
  · split_ifs at h
    cases h
    rfl

end Specimen.Inference
