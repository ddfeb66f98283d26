import Specimen.Proofs.Inference.Closure
import Specimen.Proofs.Inference.Matching

set_option autoImplicit false

/-! # How strings are typed matters to strings only

The strings of a JSON document can be typed as strings or by what they denote. `infer_sniffed`
compares the two schemas that a document comes to, as long as identical classes stay apart: the
same classes in the same order, each with the same fields in the same order, and types that differ
at most where one has a string, and the other one nothing, a truth value or a number
(`FieldType.Sniffed`). Both fail alike, and without a string in the document nothing differs at all.

A number is boxed directly under a list and a string is not, so the relation has to know where a
type stands. `Sniffed.boxed` is the step under a list.
-/

namespace Specimen.Schema

/-- What a string can turn out to denote, if it is no string: where it is the element of a list,
numbers are boxed. -/
def sniffedTypes (inList : Bool) : List FieldType :=
  if inList then [.null, .boolean, .boxedInteger, .boxedLong, .boxedDouble]
  else [.null, .boolean, .integer, .long, .double]

/-- Two types are the same, but where the first one has a string the second one may have what it
denotes. -/
inductive FieldType.Sniffed : Bool → FieldType → FieldType → Prop
  /-- The types are the same. -/
  | same (inList : Bool) (t : FieldType) : Sniffed inList t t
  /-- The string denotes something else. -/
  | string (inList : Bool) {t : FieldType} (h : t ∈ sniffedTypes inList) :
      Sniffed inList .string t
  /-- The elements of two lists differ so. -/
  | listOf (inList : Bool) {t u : FieldType} (h : Sniffed true t u) :
      Sniffed inList (.listOf t) (.listOf u)

/-- What is sniffed outside of lists is boxed for a list. -/
theorem boxed_mem_sniffedTypes {t : FieldType} (h : t ∈ sniffedTypes false) :
    t.boxed ∈ sniffedTypes true := by
  revert t
  decide

theorem FieldType.Sniffed.boxed {t u : FieldType} (h : Sniffed false t u) :
    Sniffed true t.boxed u.boxed := by
  cases h with
  | same _ => exact .same true t.boxed
  | string _ h => exact .string true (boxed_mem_sniffedTypes h)
  | listOf _ h => exact .listOf true h

end Specimen.Schema

namespace Specimen.Inference

open Specimen.Document Specimen.Schema

/-- Sniffing a string gives a string or something else that a string can denote. -/
theorem sniffed_tokenType (token : String) :
    FieldType.Sniffed false .string (tokenType token) := by
  have hmem := tokenType_mem token
  by_cases hstring : tokenType token = .string
  · rw [hstring]
    exact .same false .string
  · refine .string false ?_
    simp only [scalarTypes, sniffedTypes, List.mem_cons] at hmem ⊢
    simpa [hstring] using hmem

/-- Only the type of a string depends on how strings are typed. -/
theorem sniffed_leafType (s : Scalar) :
    FieldType.Sniffed false (leafType .literal s) (leafType .sniff s) := by
  cases s with
  | text t => exact sniffed_tokenType t
  | _ => exact .same false _

theorem keepsMatching_sniffed (package : String) :
    KeepsMatching package package (FieldType.Sniffed false) where
  null := .same false .null
  attributeValue value := .same false (attributeType value)
  listOf h := .listOf false h.boxed
  objectRef name := .same false (.objectRef (qualify package name))

theorem keepsMatching_eq (package : String) : KeepsMatching package package (· = ·) where
  null := rfl
  attributeValue _ := rfl
  listOf h := by rw [h]
  objectRef _ := rfl

/-- **How strings are typed matters to strings only.** If identical classes stay apart, then with
strings typed as strings and with strings typed by what they denote a document comes to the same
failure, or to schemas with the same classes in the same order and the same fields in the same
order, whose types differ only in strings that denote something else. A document without strings
comes to the same. -/
theorem infer_sniffed (rootName : String) (element : Element) :
    SameOutcome (Schema.Matches (· = ·) (FieldType.Sniffed false))
        (infer ⟨.literal, false⟩ rootName element) (infer ⟨.sniff, false⟩ rootName element) ∧
      ((∀ t, Scalar.text t ∉ leaves element) →
        infer ⟨.literal, false⟩ rootName element = infer ⟨.sniff, false⟩ rootName element) := by
  rw [infer_unmerged, infer_unmerged]
  cases hroot : splitRoot rootName with
  | error f =>
      simp only [run, hroot]
      exact ⟨.error f, fun _ => trivial⟩
  | ok parts =>
      obtain ⟨package, name⟩ := parts
      constructor
      · have hleaves : ∀ s ∈ leaves element,
            FieldType.Sniffed false (leafType .literal s) (leafType .sniff s) :=
          fun s _ => sniffed_leafType s
        have hmatches := run_matches (keepsMatching_sniffed package) hroot hroot ⟨.literal, false⟩
          ⟨.sniff, false⟩ hleaves
        exact hmatches.mono fun s s' h => h.mono fun m n => eq_of_requalified
      · intro hstrings
        have hleaves : ∀ s ∈ leaves element, leafType .literal s = leafType .sniff s := by
          intro s hs
          cases s with
          | text t => exact absurd hs (hstrings t)
          | _ => rfl
        have hmatches := run_matches (keepsMatching_eq package) hroot hroot ⟨.literal, false⟩
          ⟨.sniff, false⟩ hleaves
        refine (hmatches.mono fun s s' h => ?_).eq
        exact (h.mono fun m n => eq_of_requalified).eq

/-- An object with strings that denote a truth value, a number under a list, and nothing. -/
def quotedValues : Element :=
  .container .jsonObject [] [("on", .scalar (.text "true")),
    ("sizes", .container .jsonArray [] [("0", .scalar (.text "17"))]), ("note", .scalar (.text ""))]

/-- An object of the same shape without strings. -/
def bareValues : Element :=
  .container .jsonObject [] [("on", .scalar (.bool true)),
    ("sizes", .container .jsonArray [] []), ("note", .scalar .null)]

theorem infer_sniffed_quotedValues :
    (∃ s s', infer ⟨.literal, false⟩ "p.R" quotedValues = .ok s ∧
      infer ⟨.sniff, false⟩ "p.R" quotedValues = .ok s' ∧ s ≠ s' ∧
      s.Matches (· = ·) (FieldType.Sniffed false) s') ∧
    (∀ t, Scalar.text t ∉ leaves bareValues) ∧
      infer ⟨.literal, false⟩ "p.R" bareValues = infer ⟨.sniff, false⟩ "p.R" bareValues := by
  have hstrings : ∀ t, Scalar.text t ∉ leaves bareValues := by
    intro t
    simp [bareValues, leaves, leavesIn]
  have hdiffer : (infer ⟨.literal, false⟩ "p.R" quotedValues).toOption
      ≠ (infer ⟨.sniff, false⟩ "p.R" quotedValues).toOption := by decide +kernel
  refine ⟨?_, hstrings, (infer_sniffed "p.R" bareValues).2 hstrings⟩
  obtain ⟨s, hs⟩ : ∃ s, infer ⟨.literal, false⟩ "p.R" quotedValues = .ok s := ⟨_, rfl⟩
  have hmatches := (infer_sniffed "p.R" quotedValues).1
  rw [hs] at hmatches hdiffer ⊢
  generalize infer ⟨.sniff, false⟩ "p.R" quotedValues = outcome at hmatches hdiffer ⊢
  cases hmatches with
  | @ok _ s' h => exact ⟨s, s', rfl, rfl, fun heq => hdiffer (congrArg some heq), h⟩

end Specimen.Inference
