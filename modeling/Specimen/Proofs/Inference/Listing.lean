import Specimen.Inference.Infer
import Specimen.Proofs.Schema.Insertion
import Specimen.Proofs.Success

set_option autoImplicit false

/-! # What a document gives by itself

The builder threads one registry through a whole document and through every document that came
before. This file says what a part of a document contributes without mentioning a registry: its
`listing`, defined by recursion on the part alone, has the type of the part or the first failure
in it, and the classes of the objects up to there, inner ones first.

`build_refines_listing` is the link: whatever is registered already, building gives the listed
result, and registers the listed classes one by one.
-/

namespace Specimen.Inference

open Specimen.Document Specimen.Schema

/-! ## Listings -/

/-- A result or the first failure, and the classes that come with it, in the order in which they
are registered. -/
structure Listing (α : Type) where
  /-- The result, or why there is none. -/
  result : Except Failure α
  /-- The classes. -/
  classes : List ClassDefinition

/-- The names and types of an object's attributes. -/
def attributeEntries (attributes : List (String × String)) : List (String × FieldType) :=
  attributes.map fun (name, value) => (name, attributeType value)

theorem names_attributeEntries (attributes : List (String × String)) :
    (attributeEntries attributes).map Prod.fst = attributes.map Prod.fst := by
  rw [attributeEntries, List.map_map]
  rfl

/-- The fields of an object with the given entries: a name that occurs several times has its
first place and its last type. -/
def settledFields (entries : List (String × FieldType)) : Fields where
  toList := Keyed.settled Prod.fst entries
  nodup := by
    rw [← Keyed.toList_ofList]
    exact (Keyed.ofList entries).nodup

theorem find?_settledFields (entries : List (String × FieldType)) (field : String) :
    (settledFields entries).find? field = Keyed.lastWith Prod.fst entries field := by
  refine Option.ext fun entry => ?_
  rw [Keyed.find?_eq_some_iff]
  show entry ∈ Keyed.settled Prod.fst entries ∧ entry.1 = field ↔ _
  rw [Keyed.mem_settled]
  constructor
  · rintro ⟨hlast, rfl⟩
    exact hlast
  · intro hlast
    obtain rfl := (Keyed.of_lastWith_eq_some hlast).2
    exact ⟨hlast, rfl⟩

mutual

/-- The listing of a part of a document whose class, if it needs one, is to be called `name`. -/
def listing (typing : StringTyping) (package : String) (name : String) :
    Element → Listing FieldType
  | .scalar s => ⟨.ok (leafType typing s), []⟩
  | .container origin attributes children =>
    match containerShape origin attributes children with
    | .error f => ⟨.error f, []⟩
    | .ok .null => ⟨.ok .null, []⟩
    | .ok .list => listingOfFirst typing package origin name children
    | .ok .object =>
      let inner := listingOfChildren typing package children
      match inner.result with
      | .error f => ⟨.error f, inner.classes⟩
      | .ok entries =>
        let qualifiedName := qualify package name
        let fields := settledFields (attributeEntries attributes ++ entries)
        ⟨.ok (.objectRef qualifiedName), inner.classes ++ [⟨qualifiedName, fields⟩]⟩

/-- The listing of a list with the given name: only its first element counts, which is called
after its tag in XML and after the singular of the list's name elsewhere. -/
def listingOfFirst (typing : StringTyping) (package : String) (origin : Origin) (name : String) :
    List (String × Element) → Listing FieldType
  | [] => ⟨.ok (.listOf .null), []⟩
  | (tag, first) :: _ =>
    let inner := listing typing package (if origin = .xml then tag else singular name) first
    ⟨inner.result.map fun t => .listOf t.boxed, inner.classes⟩

/-- The names and types of an object's children. -/
def listingOfChildren (typing : StringTyping) (package : String) :
    List (String × Element) → Listing (List (String × FieldType))
  | [] => ⟨.ok [], []⟩
  | (field, child) :: others =>
    match capitalize field with
    | .error f => ⟨.error f, []⟩
    | .ok name =>
      let inner := listing typing package name child
      match inner.result with
      | .error f => ⟨.error f, inner.classes⟩
      | .ok t =>
        let rest := listingOfChildren typing package others
        ⟨rest.result.map fun entries => (field, t) :: entries, inner.classes ++ rest.classes⟩

end

/-! ## Parts that have a type -/

section Result

variable {typing : StringTyping} {package name : String}

/-- **What a container with a type is**: bare, a list with the listing of its first element, or an
object whose children have types and whose class is listed behind theirs. -/
theorem listing_container_cases {origin : Origin} {attributes : List (String × String)}
    {children : List (String × Element)} {t : FieldType}
    (h : (listing typing package name (.container origin attributes children)).result = .ok t) :
    (containerShape origin attributes children = .ok .null ∧ t = .null ∧
        (listing typing package name (.container origin attributes children)).classes = []) ∨
      (containerShape origin attributes children = .ok .list ∧
        listing typing package name (.container origin attributes children)
          = listingOfFirst typing package origin name children) ∨
      ∃ entries, containerShape origin attributes children = .ok .object ∧
        (listingOfChildren typing package children).result = .ok entries ∧
        t = .objectRef (qualify package name) ∧
        (listing typing package name (.container origin attributes children)).classes
          = (listingOfChildren typing package children).classes ++
              [⟨qualify package name, settledFields (attributeEntries attributes ++ entries)⟩] := by
  rw [listing] at h ⊢
  cases hshape : containerShape origin attributes children with
  | error f =>
      simp only [hshape] at h
      cases h
  | ok shape =>
      simp only [hshape] at h ⊢
      cases shape with
      | null =>
          cases h
          exact Or.inl ⟨rfl, rfl, rfl⟩
      | list => exact Or.inr (Or.inl ⟨rfl, rfl⟩)
      | object =>
          right
          right
          cases hresult : (listingOfChildren typing package children).result with
          | error f =>
              simp only [hresult] at h
              cases h
          | ok entries =>
              simp only [hresult] at h
              cases h
              exact ⟨entries, rfl, rfl, rfl, rfl⟩

theorem listing_of_list {origin : Origin} {attributes : List (String × String)}
    {children : List (String × Element)}
    (hshape : containerShape origin attributes children = .ok .list) :
    listing typing package name (.container origin attributes children)
      = listingOfFirst typing package origin name children := by
  simp only [listing, hshape]

theorem listing_of_object {origin : Origin} {attributes : List (String × String)}
    {children : List (String × Element)}
    (hshape : containerShape origin attributes children = .ok .object)
    {entries : List (String × FieldType)}
    (hresult : (listingOfChildren typing package children).result = .ok entries) :
    listing typing package name (.container origin attributes children)
      = ⟨.ok (.objectRef (qualify package name)),
          (listingOfChildren typing package children).classes ++
            [⟨qualify package name, settledFields (attributeEntries attributes ++ entries)⟩]⟩ := by
  simp only [listing, hshape, hresult]

/-- A list whose first element has a type. -/
theorem exists_of_listingOfFirst {origin : Origin} {tag : String} {first : Element}
    {others : List (String × Element)} {t : FieldType}
    (h : (listingOfFirst typing package origin name ((tag, first) :: others)).result = .ok t) :
    ∃ u, (listing typing package (if origin = .xml then tag else singular name) first).result
        = .ok u ∧ t = .listOf u.boxed := by
  rw [listingOfFirst] at h
  obtain ⟨u, hu, rfl⟩ := exists_of_map_eq_ok h
  exact ⟨u, hu, rfl⟩

/-- An object whose children all have types: the first one does, and so do the others. -/
theorem exists_of_listingOfChildren {field : String} {child : Element}
    {others : List (String × Element)} {entries : List (String × FieldType)}
    (h : (listingOfChildren typing package ((field, child) :: others)).result = .ok entries) :
    ∃ name u rest, capitalize field = .ok name ∧
      (listing typing package name child).result = .ok u ∧
      (listingOfChildren typing package others).result = .ok rest ∧
      entries = (field, u) :: rest ∧
      (listingOfChildren typing package ((field, child) :: others)).classes
        = (listing typing package name child).classes ++
            (listingOfChildren typing package others).classes := by
  rw [listingOfChildren] at h ⊢
  cases hname : capitalize field with
  | error f =>
      simp only [hname] at h
      cases h
  | ok name =>
      simp only [hname] at h ⊢
      cases hchild : (listing typing package name child).result with
      | error f =>
          simp only [hchild] at h
          cases h
      | ok u =>
          simp only [hchild] at h ⊢
          obtain ⟨rest, hrest, rfl⟩ := exists_of_map_eq_ok h
          exact ⟨name, u, rest, rfl, hchild, hrest, rfl, rfl⟩

theorem listingOfChildren_cons {field : String} {child : Element}
    {others : List (String × Element)} {t : FieldType} {entries : List (String × FieldType)}
    (hname : capitalize field = .ok name)
    (hchild : (listing typing package name child).result = .ok t)
    (hothers : (listingOfChildren typing package others).result = .ok entries) :
    listingOfChildren typing package ((field, child) :: others)
      = ⟨.ok ((field, t) :: entries), (listing typing package name child).classes ++
          (listingOfChildren typing package others).classes⟩ := by
  simp only [listingOfChildren, hname, hchild, hothers, Except.map]

/-- The children of an object have types if the first one does and the others do. -/
theorem result_listingOfChildren_cons {field : String} (hname : capitalize field = .ok name)
    (child : Element) (others : List (String × Element)) :
    (listingOfChildren typing package ((field, child) :: others)).result
      = (listing typing package name child).result.bind fun t =>
          (listingOfChildren typing package others).result.map ((field, t) :: ·) := by
  rw [listingOfChildren]
  simp only [hname]
  cases (listing typing package name child).result <;> rfl

/-- The typed children of an object correspond to its children, position by position. -/
theorem forall₂_of_listingOfChildren {children : List (String × Element)}
    {entries : List (String × FieldType)}
    (h : (listingOfChildren typing package children).result = .ok entries) :
    List.Forall₂ (fun child entry => child.1 = entry.1 ∧
      ∃ name, (listing typing package name child.2).result = .ok entry.2) children entries := by
  induction children generalizing entries with
  | nil =>
      cases h
      exact .nil
  | cons first others ih =>
      obtain ⟨name, _, rest, _, hchild, hothers, rfl, _⟩ := exists_of_listingOfChildren h
      exact .cons ⟨rfl, name, hchild⟩ (ih hothers)

/-- The typed children of an object have the names of its children. -/
theorem names_of_listingOfChildren {children : List (String × Element)}
    {entries : List (String × FieldType)}
    (h : (listingOfChildren typing package children).result = .ok entries) :
    entries.map Prod.fst = children.map Prod.fst := by
  induction children generalizing entries with
  | nil =>
      cases h
      rfl
  | cons first others ih =>
      obtain ⟨_, _, rest, _, _, hothers, rfl, _⟩ := exists_of_listingOfChildren h
      rw [List.map_cons, List.map_cons, ih hothers]

end Result

/-! ## Building is listing -/

/-- The outcome of a builder that gives the result of a listing and registers its classes one by
one. -/
def Listing.onto {α : Type} (l : Listing α) (r : Registry) : Except Failure α × Registry :=
  (l.result, l.classes.foldl Registry.register r)

theorem elementName_eq (origin : Origin) (tag name : String) :
    elementName origin tag name = if origin = .xml then tag else singular name := by
  cases origin <;> rfl

/-- Inserting further entries into the fields of the attributes settles all of them. -/
theorem foldl_insert_attributeFields (attributes : List (String × String))
    (entries : List (String × FieldType)) :
    entries.foldl Keyed.insert (attributeFields attributes)
      = settledFields (attributeEntries attributes ++ entries) := by
  refine Keyed.eq_of_toList_eq ?_
  show _ = Keyed.settled Prod.fst (attributeEntries attributes ++ entries)
  rw [← Keyed.toList_ofList, Keyed.ofList, List.foldl_append]
  rfl

mutual

theorem build_eq_listing (typing : StringTyping) (package : String) :
    ∀ (name : String) (element : Element) (r : Registry),
      build typing package name element r = (listing typing package name element).onto r
  | _, .scalar _, _ => rfl
  | name, .container origin attributes children, r => by
      rw [build, listing]
      cases containerShape origin attributes children with
      | error f => rfl
      | ok shape =>
          cases shape with
          | null => rfl
          | list => exact buildFirst_eq_listing typing package origin name children r
          | object =>
              have ih := buildFields_eq_listing typing package (attributeFields attributes)
                children r
              simp only [Builder.andThen, Builder.ofExcept, ih]
              cases (listingOfChildren typing package children).result with
              | error f => rfl
              | ok entries =>
                  -- the builder goes on from the attributes' fields, the listing settles
                  -- attributes and children together
                  simp only [Except.map, foldl_insert_attributeFields, Listing.onto,
                    List.foldl_append]
                  rfl

theorem buildFirst_eq_listing (typing : StringTyping) (package : String) (origin : Origin)
    (name : String) :
    ∀ (children : List (String × Element)) (r : Registry),
      buildFirst typing package origin name children r
        = (listingOfFirst typing package origin name children).onto r
  | [], _ => rfl
  | (tag, first) :: _, r => by
      rw [buildFirst, listingOfFirst, elementName_eq]
      have ih := build_eq_listing typing package
        (if origin = .xml then tag else singular name) first r
      simp only [Builder.andThen, ih, Listing.onto]
      cases (listing typing package (if origin = .xml then tag else singular name) first).result
        <;> rfl

/-- Building an object's children inserts their listed entries into the fields that are there. -/
theorem buildFields_eq_listing (typing : StringTyping) (package : String) (fields : Fields) :
    ∀ (children : List (String × Element)) (r : Registry),
      buildFields typing package fields children r
        = ((listingOfChildren typing package children).result.map
              fun entries => entries.foldl Keyed.insert fields,
            (listingOfChildren typing package children).classes.foldl Registry.register r)
  | [], _ => rfl
  | (field, child) :: others, r => by
      rw [buildFields, listingOfChildren]
      cases capitalize field with
      | error f => rfl
      | ok name =>
          have ih := build_eq_listing typing package name child r
          simp only [Builder.andThen, Builder.ofExcept, ih, Listing.onto]
          cases (listing typing package name child).result with
          | error f => rfl
          | ok t =>
              -- the other children start from what this one has registered
              have ih := buildFields_eq_listing typing package (fields.insert (field, t)) others
                ((listing typing package name child).classes.foldl Registry.register r)
              simp only [ih, List.foldl_append]
              cases (listingOfChildren typing package others).result <;> rfl

end

/-- **Building refines the listing.** Whatever registry a builder starts from, it gives the type
or the failure of the part's listing, and it leaves that registry with the listed classes put in
one by one, each in the place of the class with its name or behind all others. -/
theorem build_refines_listing (typing : StringTyping) (package name : String) (element : Element)
    (r : Registry) :
    (build typing package name element r).1 = (listing typing package name element).result ∧
      (build typing package name element r).2.toList
        = (listing typing package name element).classes.foldl
            (Keyed.replaceOrAppend ClassDefinition.qualifiedName) r.toList := by
  rw [build_eq_listing]
  exact ⟨rfl, Keyed.toList_foldl_insert r _⟩

/-! ## One document -/

/-- The schema of a document is its listing, registered from nothing. -/
theorem run_eq_listing {rootName package name : String}
    (hroot : splitRoot rootName = .ok (package, name)) (options : Options) (element : Element) :
    run options rootName element
      = (listing options.stringTyping package name element).result.map fun t =>
          ⟨t, (listing options.stringTyping package name element).classes.foldl
            Registry.register Keyed.empty⟩ := by
  unfold run
  simp only [hroot, build_eq_listing, Listing.onto]
  cases (listing options.stringTyping package name element).result <;> rfl

theorem listing_of_run {rootName package name : String}
    (hroot : splitRoot rootName = .ok (package, name)) {options : Options} {element : Element}
    {s : Schema} (h : run options rootName element = .ok s) :
    (listing options.stringTyping package name element).result = .ok s.root ∧
      s.registry = (listing options.stringTyping package name element).classes.foldl
        Registry.register Keyed.empty := by
  rw [run_eq_listing hroot] at h
  obtain ⟨t, hresult, rfl⟩ := exists_of_map_eq_ok h
  exact ⟨hresult, rfl⟩

/-- Without merging, documents are only run. -/
theorem infer_unmerged (typing : StringTyping) (rootName : String) (element : Element) :
    infer ⟨typing, false⟩ rootName element = run ⟨typing, false⟩ rootName element := by
  unfold infer
  cases run ⟨typing, false⟩ rootName element <;> rfl

/-! ## Any number of documents -/

/-- What a builder is asked for: the type of a document, whose class is to have the given name
and package. -/
structure Call where
  /-- How strings are typed. -/
  typing : StringTyping
  /-- The package of all classes. -/
  package : String
  /-- The simple name of the document's class. -/
  name : String
  /-- The document. -/
  element : Element

/-- The listing of a call's document. -/
def Call.listing (c : Call) : Listing FieldType :=
  Inference.listing c.typing c.package c.name c.element

/-- A builder between two calls. -/
structure Session where
  /-- The answers to the calls so far. -/
  results : List (Except Failure FieldType)
  /-- The classes that are registered. -/
  registry : Registry

/-- A builder that has not been called. -/
def Session.fresh : Session := ⟨[], Keyed.empty⟩

/-- The builder after one more call. -/
def Session.call (s : Session) (c : Call) : Session :=
  let (result, registry) := build c.typing c.package c.name c.element s.registry
  ⟨s.results ++ [result], registry⟩

/-- The builder after the given calls, one after another. -/
def Session.run (calls : List Call) : Session := calls.foldl Session.call Session.fresh

theorem Session.call_eq_listing (s : Session) (c : Call) :
    s.call c = ⟨s.results ++ [c.listing.result],
      c.listing.classes.foldl Registry.register s.registry⟩ := by
  unfold Session.call
  rw [build_eq_listing]
  rfl

theorem Session.run_append_singleton (calls : List Call) (c : Call) :
    Session.run (calls ++ [c]) = (Session.run calls).call c := by
  rw [Session.run, List.foldl_append]
  rfl

/-- What holds of a new builder and is kept by each call holds after any calls. -/
theorem Session.run_invariant {P : Session → Prop} (hfresh : P Session.fresh)
    (hcall : ∀ s c, P s → P (s.call c)) (calls : List Call) : P (Session.run calls) := by
  induction calls using List.reverseRecOn with
  | nil => exact hfresh
  | append_singleton calls c ih =>
      rw [Session.run_append_singleton]
      exact hcall _ c ih

/-- **A builder answers each call as if it were the first**, failed or not, and ends with the
classes that all calls list, one after another. -/
theorem Session.run_eq_listings (calls : List Call) :
    (Session.run calls).results = calls.map (fun c => c.listing.result) ∧
      (Session.run calls).registry.toList
        = (calls.flatMap fun c => c.listing.classes).foldl
            (Keyed.replaceOrAppend ClassDefinition.qualifiedName) [] := by
  induction calls using List.reverseRecOn with
  | nil => exact ⟨rfl, rfl⟩
  | append_singleton calls c ih =>
      rw [Session.run_append_singleton, Session.call_eq_listing]
      constructor
      · rw [ih.1, List.map_append, List.map_singleton]
      · rw [List.flatMap_append, List.foldl_append, ← ih.2, List.flatMap_singleton]
        exact Keyed.toList_foldl_insert _ _

end Specimen.Inference
