import Specimen.Proofs.Inference.Conformance
import Specimen.Proofs.Inference.Pruning

set_option autoImplicit false

/-! # The first defect of a document

A document has no schema if a container in its sampled part contradicts itself (`IsDefect`): a JSON
array or object with attributes, or an object with a child that has no name for a class. A document
may have any number of defects, and inference tells one of them.

`visits` is the walk through the sampled part of a document, in document order and from the outside
to the inside, with nothing said about defects. `infer_tells_first` says that inference fails exactly
if the walk meets a defect, and with the first one that it meets; and that it meets one exactly if
some sampled container has one. The link is `failure?_listing`: by induction on the document, the
failure of a part's listing is the first failure on the walk through the part.
-/

namespace Specimen.Inference

open Specimen.Document Specimen.Schema

/-! ## The walk through a document -/

/-- What is met on the walk through a document. -/
inductive Visit
  /-- A container, with its attributes. -/
  | container (origin : Origin) (attributes : List (String × String))
  /-- The name of an object's child. -/
  | name (field : String)

/-- What is wrong with something that is met: a JSON container has attributes, or a child of an
object has no name. -/
def Visit.failure? : Visit → Option Failure
  | .container .xml _ => none
  | .container origin attributes =>
    if attributes = [] then none else some (.unexpectedAttributes origin attributes.length)
  | .name field => if field = "" then some .emptyName else none

mutual

/-- The walk through the sampled part of a document: a container comes before what is inside it. -/
def visits : Element → List Visit
  | .scalar _ => []
  | .container origin attributes children =>
    .container origin attributes ::
      if isListShaped origin attributes children then visitsOfFirst children
      else visitsOfChildren children

/-- The walk through the first element of a list, whose tag is not looked at. -/
def visitsOfFirst : List (String × Element) → List Visit
  | [] => []
  | (_, first) :: _ => visits first

/-- The walk through the children of an object: the name of a child comes before the child. -/
def visitsOfChildren : List (String × Element) → List Visit
  | [] => []
  | (field, child) :: others => .name field :: (visits child ++ visitsOfChildren others)

end

/-! ## The failure of a listing -/

theorem failure?_containerShape (origin : Origin) (attributes : List (String × String))
    (children : List (String × Element)) :
    failure? (containerShape origin attributes children)
      = (Visit.container origin attributes).failure? := by
  cases origin with
  | xml =>
      simp only [containerShape]
      split_ifs <;> rfl
  | jsonArray => cases attributes <;> rfl
  | jsonObject => cases attributes <;> rfl

theorem failure?_capitalize (field : String) :
    failure? (capitalize field) = (Visit.name field).failure? := by
  unfold capitalize
  cases h : field.toList with
  | nil =>
      obtain rfl : field = "" := String.ext h
      rfl
  | cons c r =>
      have hne : field ≠ "" := by
        rintro rfl
        cases h
      simp [failure?, Visit.failure?, hne]

mutual

/-- **A part of a document fails as the first defect on the walk through it.** -/
theorem failure?_listing (typing : StringTyping) (package : String) :
    ∀ (name : String) (element : Element),
      failure? (listing typing package name element).result
        = (visits element).findSome? Visit.failure?
  | _, .scalar _ => rfl
  | name, .container origin attributes children => by
      rw [visits, List.findSome?_cons, ← failure?_containerShape origin attributes children, listing]
      cases hshape : containerShape origin attributes children with
      | error f => rfl
      | ok shape =>
          -- from here on the walk goes where the shape leads
          rw [isListShaped_of_containerShape hshape]
          cases shape with
          | null =>
              obtain ⟨-, -, rfl⟩ := eq_bare_of_containerShape_null hshape
              rfl
          | list => exact failure?_listingOfFirst typing package origin name children
          | object =>
              -- the class that is listed last cannot fail
              refine Eq.trans ?_ (failure?_listingOfChildren typing package children)
              dsimp only
              cases (listingOfChildren typing package children).result <;> rfl

theorem failure?_listingOfFirst (typing : StringTyping) (package : String) (origin : Origin)
    (name : String) :
    ∀ children : List (String × Element),
      failure? (listingOfFirst typing package origin name children).result
        = (visitsOfFirst children).findSome? Visit.failure?
  | [] => rfl
  | (tag, first) :: _ => by
      rw [listingOfFirst, visitsOfFirst]
      exact (failure?_map _ _).trans (failure?_listing typing package _ first)

theorem failure?_listingOfChildren (typing : StringTyping) (package : String) :
    ∀ children : List (String × Element),
      failure? (listingOfChildren typing package children).result
        = (visitsOfChildren children).findSome? Visit.failure?
  | [] => rfl
  | (field, child) :: others => by
      rw [visitsOfChildren, List.findSome?_cons, List.findSome?_append, ← failure?_capitalize]
      cases hname : capitalize field with
      | error f =>
          rw [listingOfChildren, hname]
          rfl
      | ok name =>
          have ih := failure?_listingOfChildren typing package others
          rw [result_listingOfChildren_cons hname, ← failure?_listing typing package name child]
          exact failure?_bind _ fun t => (failure?_map _ _).trans ih

end

/-- A document fails as its listing does, merged or not. -/
theorem failure?_infer {rootName package name : String}
    (hroot : splitRoot rootName = .ok (package, name)) (options : Options) (element : Element) :
    failure? (infer options rootName element)
      = (visits element).findSome? Visit.failure? := by
  rw [infer, run_eq_listing hroot, failure?_map, failure?_map, failure?_listing]

/-! ## The defects of sampled containers -/

/-- `Samples element part`: the part counts for the type of the element. Of a list the first
element does, and of any other container all children do. -/
inductive Samples : Element → Element → Prop
  | self (element : Element) : Samples element element
  | first {origin : Origin} {attributes : List (String × String)} {tag : String}
      {first part : Element} {others : List (String × Element)}
      (hlist : isListShaped origin attributes ((tag, first) :: others) = true)
      (h : Samples first part) :
      Samples (.container origin attributes ((tag, first) :: others)) part
  | child {origin : Origin} {attributes : List (String × String)} {field : String}
      {child part : Element} {children : List (String × Element)}
      (hobject : isListShaped origin attributes children = false)
      (hchild : (field, child) ∈ children) (h : Samples child part) :
      Samples (.container origin attributes children) part

/-- What can be wrong with a container by itself. -/
inductive IsDefect : Element → Failure → Prop
  /-- A JSON array or a JSON object has attributes, which is an unsupported shape. -/
  | attributes {origin : Origin} {attributes : List (String × String)}
      {children : List (String × Element)} (horigin : origin ≠ .xml) (h : attributes ≠ []) :
      IsDefect (.container origin attributes children)
        (.unexpectedAttributes origin attributes.length)
  /-- A child of an object has no name, which makes no valid class name. -/
  | emptyName {origin : Origin} {attributes : List (String × String)} {child : Element}
      {children : List (String × Element)}
      (hobject : isListShaped origin attributes children = false)
      (h : ("", child) ∈ children) :
      IsDefect (.container origin attributes children) .emptyName

/-- What is met at a part of a document before the walk goes into the parts inside it. -/
def ownVisits : Element → List Visit
  | .scalar _ => []
  | .container origin attributes children =>
    .container origin attributes ::
      if isListShaped origin attributes children then []
      else children.map fun child => .name child.1

theorem Visit.failure?_container_eq_some_iff {origin : Origin}
    {attributes : List (String × String)} {f : Failure} :
    (Visit.container origin attributes).failure? = some f ↔
      origin ≠ .xml ∧ attributes ≠ [] ∧ f = .unexpectedAttributes origin attributes.length := by
  cases origin <;> simp [failure?, eq_comm]

theorem Visit.failure?_name_eq_some_iff {field : String} {f : Failure} :
    (Visit.name field).failure? = some f ↔ field = "" ∧ f = .emptyName := by
  simp [failure?, eq_comm]

theorem mem_ownVisits_container_iff {v : Visit} {origin : Origin}
    {attributes : List (String × String)} {children : List (String × Element)} :
    v ∈ ownVisits (.container origin attributes children) ↔
      v = .container origin attributes ∨
        isListShaped origin attributes children = false ∧ ∃ child ∈ children, v = .name child.1 := by
  cases hlist : isListShaped origin attributes children <;> simp [ownVisits, hlist, eq_comm]

/-- The defects of a part are what is wrong with what is met at it. -/
theorem isDefect_iff {part : Element} {f : Failure} :
    IsDefect part f ↔ ∃ v ∈ ownVisits part, v.failure? = some f := by
  constructor
  · intro h
    cases h with
    | attributes horigin h =>
        exact ⟨_, mem_ownVisits_container_iff.mpr (Or.inl rfl),
          Visit.failure?_container_eq_some_iff.mpr ⟨horigin, h, rfl⟩⟩
    | emptyName hobject h =>
        exact ⟨.name "", mem_ownVisits_container_iff.mpr (Or.inr ⟨hobject, _, h, rfl⟩), rfl⟩
  · rintro ⟨v, hv, hf⟩
    cases part with
    | scalar s => cases hv
    | container origin attributes children =>
        rcases mem_ownVisits_container_iff.mp hv with rfl | ⟨hobject, ⟨field, child⟩, hchild, rfl⟩
        · obtain ⟨horigin, h, rfl⟩ := Visit.failure?_container_eq_some_iff.mp hf
          exact .attributes horigin h
        · obtain ⟨rfl, rfl⟩ := Visit.failure?_name_eq_some_iff.mp hf
          exact .emptyName hobject hchild

theorem mem_visitsOfChildren_iff {v : Visit} {children : List (String × Element)} :
    v ∈ visitsOfChildren children ↔ ∃ child ∈ children, v = .name child.1 ∨ v ∈ visits child.2 := by
  induction children with
  | nil => simp [visitsOfChildren]
  | cons child others ih => simp [visitsOfChildren, ih, or_assoc]

/-- What is met at a sampled part is met on the walk. -/
theorem Samples.mem_visits {element part : Element} (h : Samples element part) {v : Visit}
    (hv : v ∈ ownVisits part) : v ∈ visits element := by
  induction h with
  | self element =>
      cases element with
      | scalar s => cases hv
      | container origin attributes children =>
          rw [visits, List.mem_cons]
          rcases mem_ownVisits_container_iff.mp hv with rfl | ⟨hobject, child, hchild, rfl⟩
          · exact Or.inl rfl
          · rw [hobject]
            exact Or.inr (mem_visitsOfChildren_iff.mpr ⟨child, hchild, Or.inl rfl⟩)
  | first hlist _ ih =>
      rw [visits, hlist]
      exact List.mem_cons_of_mem _ (ih hv)
  | child hobject hchild _ ih =>
      rw [visits, hobject]
      exact List.mem_cons_of_mem _ (mem_visitsOfChildren_iff.mpr ⟨_, hchild, Or.inr (ih hv)⟩)

mutual

/-- **All that is met on the walk is met at some sampled part.** -/
theorem exists_samples_of_mem_visits {v : Visit} :
    ∀ element : Element, v ∈ visits element →
      ∃ part, Samples element part ∧ v ∈ ownVisits part
  | .scalar _, hv => by cases hv
  | .container origin attributes children, hv => by
      rw [visits] at hv
      rcases List.mem_cons.mp hv with rfl | hv
      · exact ⟨_, .self _, List.mem_cons_self⟩
      cases hlist : isListShaped origin attributes children with
      | true =>
          rw [hlist] at hv
          cases children with
          | nil => cases hv
          | cons child others =>
              obtain ⟨part, hpart, hown⟩ := exists_samples_of_mem_visits child.2 hv
              exact ⟨part, .first hlist hpart, hown⟩
      | false =>
          rw [hlist] at hv
          obtain ⟨child, hchild, rfl | ⟨part, hpart, hown⟩⟩ :=
            exists_samples_of_mem_visitsOfChildren children hv
          · exact ⟨_, .self _, mem_ownVisits_container_iff.mpr (Or.inr ⟨hlist, child, hchild, rfl⟩)⟩
          · exact ⟨part, .child hlist hchild hpart, hown⟩

theorem exists_samples_of_mem_visitsOfChildren {v : Visit} :
    ∀ children : List (String × Element), v ∈ visitsOfChildren children →
      ∃ child ∈ children, v = .name child.1 ∨ ∃ part, Samples child.2 part ∧ v ∈ ownVisits part
  | [], hv => by cases hv
  | (field, child) :: others, hv => by
      rw [visitsOfChildren, List.mem_cons, List.mem_append] at hv
      rcases hv with rfl | hv | hv
      · exact ⟨_, List.mem_cons_self, Or.inl rfl⟩
      · exact ⟨_, List.mem_cons_self, Or.inr (exists_samples_of_mem_visits child hv)⟩
      · obtain ⟨c, hc, h⟩ := exists_samples_of_mem_visitsOfChildren others hv
        exact ⟨c, List.mem_cons_of_mem _ hc, h⟩

end

/-- The walk meets a defect exactly if a sampled part has one. -/
theorem exists_findSome?_visits_iff {element : Element} :
    (∃ f, (visits element).findSome? Visit.failure? = some f) ↔
      ∃ part f, Samples element part ∧ IsDefect part f := by
  simp only [isDefect_iff]
  constructor
  · rintro ⟨f, hf⟩
    obtain ⟨v, hv, hvf⟩ := List.exists_of_findSome?_eq_some hf
    obtain ⟨part, hpart, hown⟩ := exists_samples_of_mem_visits element hv
    exact ⟨part, f, hpart, v, hown, hvf⟩
  · rintro ⟨part, f, hpart, v, hown, hvf⟩
    rw [← Option.isSome_iff_exists, List.findSome?_isSome_iff]
    exact ⟨v, hpart.mem_visits hown, by rw [hvf]; rfl⟩

/-- **Inference tells the first defect.** With a valid root name it fails exactly if a container
that counts is a JSON container with attributes or an object with a child without a name; and then
its failure is the first one on the walk through the document, on which the attributes of a container
come before its children, and the name of a child before what is inside the child. -/
theorem infer_tells_first {rootName package name : String}
    (hroot : splitRoot rootName = .ok (package, name)) (options : Options) (element : Element) :
    ((∃ f, infer options rootName element = .error f) ↔
        ∃ part f, Samples element part ∧ IsDefect part f) ∧
      ∀ f, infer options rootName element = .error f ↔
        (visits element).findSome? Visit.failure? = some f := by
  have hfirst : ∀ f, infer options rootName element = .error f ↔
      (visits element).findSome? Visit.failure? = some f := by
    intro f
    rw [← failure?_infer hroot options element, failure?_eq_some_iff]
  refine ⟨?_, hfirst⟩
  rw [← exists_findSome?_visits_iff]
  exact exists_congr hfirst

/-- An object with two defects: an array with attributes, and a child without a name behind it. What
comes before them is none: in the array in front, a tag and the name of an attribute are empty, and
the element that has attributes in spite of its kind is not the first. -/
def faultyParts : Element :=
  .container .jsonObject []
    [("rows", .container .jsonArray []
      [("", .container .xml [("", "x")] []), ("1", .container .jsonObject [("k", "v")] [])]),
      ("cells", .container .jsonArray [("k", "v"), ("l", "w")] [("", .scalar .null)]),
      ("", .scalar .null)]

theorem infer_tells_first_faultyParts :
    splitRoot "p.R" = .ok ("p", "R") ∧
      infer .standard "p.R" faultyParts = .error (.unexpectedAttributes .jsonArray 2) ∧
      ∃ part f, Samples faultyParts part ∧ IsDefect part f := by
  obtain ⟨hfails, hfirst⟩ := @infer_tells_first "p.R" "p" "R" rfl .standard faultyParts
  have hinfer := (hfirst (.unexpectedAttributes .jsonArray 2)).mpr rfl
  exact ⟨rfl, hinfer, hfails.mp ⟨_, hinfer⟩⟩

end Specimen.Inference
