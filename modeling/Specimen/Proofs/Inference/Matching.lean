import Specimen.Proofs.Inference.Sampled
import Specimen.Proofs.Schema.Matching

set_option autoImplicit false

/-! # Builders that match

Two builders walk through one document, with different ways of typing strings or in different
packages. What they have in common is said by a relation between types: it relates what the two make
of each leaf, of attributes, of lists of related types and of references to one simple name
(`KeepsMatching`). Then whatever they make of the document is related, part by part
(`listing_matches`), and so are the two schemas, classes and fields in the same order, with the same
classes and fields replaced (`run_matches`).

The reason is that neither the shape of a part nor a name nor a failure depends on a type, so the
two builders always do the same thing next.
-/

namespace Specimen.Inference

open Specimen.Document Specimen.Schema

/-! ## Leaves -/

mutual

/-- The leaves of a document, in order. -/
def leaves : Element → List Scalar
  | .scalar s => [s]
  | .container _ _ children => leavesIn children

/-- The leaves of children. -/
def leavesIn : List (String × Element) → List Scalar
  | [] => []
  | (_, child) :: others => leaves child ++ leavesIn others

end

/-! ## What two builders have in common -/

/-- Two names are one simple name, qualified by two packages. -/
def Requalified (package package' m n : String) : Prop :=
  ∃ name, m = qualify package name ∧ n = qualify package' name

/-- A simple name is determined by its qualified name in either package. -/
theorem biUnique_requalified (package package' : String) :
    Relator.BiUnique (Requalified package package') := by
  constructor
  · rintro m n k ⟨name, rfl, rfl⟩ ⟨name', rfl, hk⟩
    rw [qualify_injective package' hk]
  · rintro m n k ⟨name, rfl, rfl⟩ ⟨name', hm, rfl⟩
    rw [qualify_injective package hm]

theorem eq_of_requalified {package m n : String} (h : Requalified package package m n) :
    m = n := by
  obtain ⟨name, rfl, rfl⟩ := h
  rfl

/-- A relation between types relates what builders in two packages make of equal parts and of
related ones, leaves aside. -/
structure KeepsMatching (package package' : String) (T : FieldType → FieldType → Prop) : Prop where
  /-- Nothing is related to nothing. -/
  null : T .null .null
  /-- So is an attribute to itself. -/
  attributeValue : ∀ value, T (attributeType value) (attributeType value)
  /-- Lists are related if their elements are. -/
  listOf : ∀ {t u}, T t u → T (.listOf t.boxed) (.listOf u.boxed)
  /-- References are related if the simple names are the same. -/
  objectRef : ∀ name, T (.objectRef (qualify package name)) (.objectRef (qualify package' name))

/-- Two listings have the same outcome up to `R`, and their classes match position by position. -/
structure Listing.Matches {α β : Type} (R : α → β → Prop) (N : String → String → Prop)
    (T : FieldType → FieldType → Prop) (l : Listing α) (l' : Listing β) : Prop where
  result : SameOutcome R l.result l'.result
  classes : List.Forall₂ (ClassDefinition.Matches N T) l.classes l'.classes

section

variable {typing typing' : StringTyping} {package package' : String}
  {T : FieldType → FieldType → Prop}

theorem matchingFields_attributeEntries (hT : KeepsMatching package package' T)
    (attributes : List (String × String)) :
    MatchingFields T (attributeEntries attributes) (attributeEntries attributes) := by
  refine List.forall₂_same.mpr fun entry hentry => ⟨rfl, ?_⟩
  obtain ⟨⟨_, value⟩, _, rfl⟩ := List.mem_map.mp hentry
  exact hT.attributeValue value

mutual

/-- **Matching builders list matching classes**, and a related type or the same failure. -/
theorem listing_matches (hT : KeepsMatching package package' T) :
    ∀ (name : String) (element : Element),
      (∀ s ∈ leaves element, T (leafType typing s) (leafType typing' s)) →
      (listing typing package name element).Matches T (Requalified package package') T
        (listing typing' package' name element)
  | _, .scalar s, hleaves => ⟨.ok (hleaves s (List.mem_singleton_self s)), .nil⟩
  | name, .container origin attributes children, hleaves => by
      rw [listing, listing]
      cases containerShape origin attributes children with
      | error f => exact ⟨.error f, .nil⟩
      | ok shape =>
          cases shape with
          | null => exact ⟨.ok hT.null, .nil⟩
          | list => exact listingOfFirst_matches hT origin name children hleaves
          | object =>
              have ih := listingOfChildren_matches hT children hleaves
              generalize listingOfChildren typing package children = inner at ih ⊢
              generalize listingOfChildren typing' package' children = inner' at ih ⊢
              obtain ⟨result, classes⟩ := inner
              obtain ⟨result', classes'⟩ := inner'
              obtain ⟨hresult, hclasses⟩ := ih
              cases hresult with
              | error f => exact ⟨.error f, hclasses⟩
              | ok hentries =>
                  -- the object's own class stands behind those of its children on both sides
                  have hall := List.rel_append (matchingFields_attributeEntries hT attributes)
                    hentries
                  refine ⟨.ok (hT.objectRef name), List.rel_append hclasses (.cons ⟨?_, ?_⟩ .nil)⟩
                  · exact ⟨name, rfl, rfl⟩
                  · exact Keyed.forall₂_settled respectsKeys_fields hall

theorem listingOfFirst_matches (hT : KeepsMatching package package' T) (origin : Origin)
    (name : String) :
    ∀ children : List (String × Element),
      (∀ s ∈ leavesIn children, T (leafType typing s) (leafType typing' s)) →
      (listingOfFirst typing package origin name children).Matches T
        (Requalified package package') T (listingOfFirst typing' package' origin name children)
  | [], _ => ⟨.ok (hT.listOf hT.null), .nil⟩
  | (tag, first) :: _, hleaves => by
      have ih := listing_matches hT (if origin = .xml then tag else singular name) first
        (fun s hs => hleaves s (List.mem_append_left _ hs))
      rw [listingOfFirst, listingOfFirst]
      exact ⟨ih.result.map fun _ _ htu => hT.listOf htu, ih.classes⟩

theorem listingOfChildren_matches (hT : KeepsMatching package package' T) :
    ∀ children : List (String × Element),
      (∀ s ∈ leavesIn children, T (leafType typing s) (leafType typing' s)) →
      (listingOfChildren typing package children).Matches (MatchingFields T)
        (Requalified package package') T (listingOfChildren typing' package' children)
  | [], _ => ⟨.ok .nil, .nil⟩
  | (field, child) :: others, hleaves => by
      rw [listingOfChildren, listingOfChildren]
      cases capitalize field with
      | error f => exact ⟨.error f, .nil⟩
      | ok name =>
          have ihChild := listing_matches hT name child
            (fun s hs => hleaves s (List.mem_append_left _ hs))
          have ihOthers := listingOfChildren_matches hT others
            (fun s hs => hleaves s (List.mem_append_right _ hs))
          dsimp only
          generalize listing typing package name child = inner at ihChild ⊢
          generalize listing typing' package' name child = inner' at ihChild ⊢
          obtain ⟨result, classes⟩ := inner
          obtain ⟨result', classes'⟩ := inner'
          obtain ⟨hresult, hclasses⟩ := ihChild
          cases hresult with
          | error f => exact ⟨.error f, hclasses⟩
          | ok htu =>
              refine ⟨ihOthers.result.map fun entries entries' hentries => ?_,
                List.rel_append hclasses ihOthers.classes⟩
              exact .cons ⟨rfl, htu⟩ hentries

end

/-- **Matching builders give matching schemas** or the same failure. -/
theorem run_matches (hT : KeepsMatching package package' T) {rootName rootName' name : String}
    (hroot : splitRoot rootName = .ok (package, name))
    (hroot' : splitRoot rootName' = .ok (package', name)) (options options' : Options)
    {element : Element}
    (hleaves : ∀ s ∈ leaves element,
      T (leafType options.stringTyping s) (leafType options'.stringTyping s)) :
    SameOutcome (Schema.Matches (Requalified package package') T) (run options rootName element)
      (run options' rootName' element) := by
  have h := listing_matches hT name element hleaves
  have hkeys := respectsKeys_classes (T := T) (biUnique_requalified package package')
  rw [run_eq_listing hroot, run_eq_listing hroot']
  refine h.result.map fun t u htu => ⟨htu, ?_⟩
  exact Keyed.forall₂_foldl_insert hkeys h.classes .nil

end

end Specimen.Inference
