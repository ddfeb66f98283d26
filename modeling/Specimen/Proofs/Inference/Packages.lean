import Specimen.Proofs.Inference.Closure
import Specimen.Proofs.Inference.Matching
import Specimen.Proofs.Inference.Qualified
import Specimen.Proofs.Schema.Renaming

set_option autoImplicit false

/-! # The package is only written

One document and one simple root name in two packages: `infer_requalified` says that the two schemas
are the same but for the package in front of each name, with or without merging, and that nothing
which was done on the way depends on it either. The classes registered one after another are the
same, so the same ones are replaced, and the same classes are merged into the same others.

Names are compared as wholes, and a simple name may have points in it. That does no harm, since both
packages are written in front of all names, and what stands behind them tells names apart alike
(`biUnique_requalified`).
-/

namespace Specimen.Inference

open Specimen.Document Specimen.Schema

/-- Only references know the package. -/
theorem keepsMatching_requalified (package package' : String) :
    KeepsMatching package package' (FieldType.Renamed (Requalified package package')) where
  null := .same rfl
  attributeValue value := .same (reference?_attributeType value)
  listOf h := .listOf h.boxed
  objectRef name := .objectRef ⟨name, rfl, rfl⟩

theorem renamed_leafType (N : String → String → Prop) (typing : StringTyping) (s : Scalar) :
    (leafType typing s).Renamed N (leafType typing s) :=
  .same (reference?_leafType typing s)

/-- **The package is only written.** With one simple root name in two packages, a document comes
to the same failure or to schemas that are the same but for the package in front of each name. The
two packages tell names apart alike. The same classes are registered one after another, and the same
ones are merged into the same others. -/
theorem infer_requalified (options : Options) (element : Element) {package package' name : String}
    (hpackage : package ≠ "") (hpackage' : package' ≠ "") (hname : name ≠ "")
    (hpoint : '.' ∉ name.toList) :
    SameOutcome (Schema.Renamed (Requalified package package'))
        (infer options (qualify package name) element)
        (infer options (qualify package' name) element) ∧
      Relator.BiUnique (Requalified package package') ∧
      List.Forall₂ (ClassDefinition.Renamed (Requalified package package'))
        (listing options.stringTyping package name element).classes
        (listing options.stringTyping package' name element).classes ∧
      ∀ s s', run options (qualify package name) element = .ok s →
        run options (qualify package' name) element = .ok s' →
        ∀ m n, Requalified package package' m n →
          Requalified package package' (s.representative m) (s'.representative n) := by
  have hT := keepsMatching_requalified package package'
  have hN := biUnique_requalified package package'
  have hroot := splitRoot_eq_ok_iff.mpr ⟨rfl, hpoint, hpackage, hname⟩
  have hroot' := splitRoot_eq_ok_iff.mpr ⟨rfl, hpoint, hpackage', hname⟩
  have hleaves : ∀ s ∈ leaves element,
      (leafType options.stringTyping s).Renamed (Requalified package package')
        (leafType options.stringTyping s) :=
    fun s _ => renamed_leafType _ options.stringTyping s
  have hrun : SameOutcome (Schema.Renamed (Requalified package package'))
      (run options (qualify package name) element) (run options (qualify package' name) element) :=
    run_matches hT hroot hroot' options options hleaves
  refine ⟨?_, hN, (listing_matches hT name element hleaves).classes, ?_⟩
  · refine hrun.map fun s s' h => ?_
    by_cases hmerges : options.merges = true
    · rw [if_pos hmerges, if_pos hmerges]
      exact h.merge hN
    · rw [if_neg hmerges, if_neg hmerges]
      exact h
  · intro s s' hs hs' m n hmn
    rw [hs, hs'] at hrun
    cases hrun with
    | ok h => exact h.representative hN hmn

/-- Two identical objects, one of them in a list, and a name with a point in it that is used
twice. -/
def pairedParts : Element :=
  .container .jsonObject [] [("left", .container .jsonObject [] [("on", .scalar (.bool true))]),
    ("rights", .container .jsonArray []
      [("0", .container .jsonObject [] [("on", .scalar (.bool false))])]),
    ("a.b", .container .jsonObject [] [("a.b", .container .jsonObject []
      [("off", .scalar .null)])])]

theorem infer_requalified_pairedParts :
    ∃ s s', infer ⟨.literal, true⟩ "p.q.R" pairedParts = .ok s ∧
      infer ⟨.literal, true⟩ "r.R" pairedParts = .ok s' ∧
      s.registry.keys = ["p.q.Left", "p.q.A.b", "p.q.R"] ∧
      s'.registry.keys = ["r.Left", "r.A.b", "r.R"] ∧ s.Renamed (Requalified "p.q" "r") s' := by
  have hsame : SameOutcome (Schema.Renamed (Requalified "p.q" "r"))
      (infer ⟨.literal, true⟩ (qualify "p.q" "R") pairedParts)
      (infer ⟨.literal, true⟩ (qualify "r" "R") pairedParts) :=
    (infer_requalified ⟨.literal, true⟩ pairedParts (by decide) (by decide) (by decide)
      (by decide)).1
  have hkeys : (infer ⟨.literal, true⟩ "p.q.R" pairedParts).toOption.map (·.registry.keys)
      = some ["p.q.Left", "p.q.A.b", "p.q.R"] := by decide +kernel
  have hkeys' : (infer ⟨.literal, true⟩ "r.R" pairedParts).toOption.map (·.registry.keys)
      = some ["r.Left", "r.A.b", "r.R"] := by decide +kernel
  rw [show qualify "p.q" "R" = "p.q.R" from rfl, show qualify "r" "R" = "r.R" from rfl] at hsame
  generalize infer ⟨.literal, true⟩ "p.q.R" pairedParts = outcome at hsame hkeys ⊢
  generalize infer ⟨.literal, true⟩ "r.R" pairedParts = outcome' at hsame hkeys' ⊢
  cases hsame with
  | error _ => cases hkeys
  | @ok s s' h => exact ⟨s, s', rfl, rfl, Option.some.inj hkeys, Option.some.inj hkeys', h⟩

end Specimen.Inference
