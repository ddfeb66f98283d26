import Specimen.Proofs.Inference.Closure
import Specimen.Proofs.Inference.Naming
import Specimen.Proofs.Schema.Boxing

set_option autoImplicit false

/-! # The types that inference gives

A type that the builder gives, or registers for a field, is that of a leaf or of an attribute, a
list of the boxed type of some part, or a reference. `Inferable` lists these cases, so what holds
of every type that is ever given or registered is one induction on it. Failures make no
difference: the classes that a failed document leaves behind have such fields too
(`Session.inferable_run`).

The first use is that types are well boxed (`Inferable.wellBoxed`).
-/

namespace Specimen.Inference

open Specimen.Document Specimen.Schema

/-- The types that parts of documents have. -/
inductive Inferable : FieldType → Prop
  /-- The type of a leaf. -/
  | leaf (typing : StringTyping) (s : Scalar) : Inferable (leafType typing s)
  /-- The type of an attribute's value. -/
  | attributeValue (value : String) : Inferable (attributeType value)
  /-- The type of a list, from that of an element. -/
  | listOf {item : FieldType} (h : Inferable item) : Inferable (.listOf item.boxed)
  /-- The type of an object. -/
  | objectRef (name : String) : Inferable (.objectRef name)

theorem inferable_null : Inferable .null := .leaf .literal .null

/-! ## Listings -/

/-- All fields of a listing's classes, and the types in its result, are inferable. -/
structure Listing.IsInferable {α : Type} (types : α → List FieldType) (l : Listing α) : Prop where
  classes : ∀ c ∈ l.classes, ∀ entry ∈ c.fields.toList, Inferable entry.2
  result : ∀ a, l.result = .ok a → ∀ t ∈ types a, Inferable t

theorem Listing.isInferable_of_inferable {t : FieldType} (h : Inferable t) :
    (Listing.mk (.ok t) []).IsInferable (fun t => [t]) := by
  refine ⟨fun c hc => (by cases hc), fun a ha u hu => ?_⟩
  cases ha
  rw [List.mem_singleton.mp hu]
  exact h

theorem Listing.isInferable_of_error {α : Type} {types : α → List FieldType} {f : Failure}
    {classes : List ClassDefinition}
    (h : ∀ c ∈ classes, ∀ entry ∈ c.fields.toList, Inferable entry.2) :
    (Listing.mk (.error f) classes).IsInferable types :=
  ⟨h, fun _ ha => by cases ha⟩

/-- The fields of an object have the types of its attributes and of its children. -/
theorem inferable_settledFields {attributes : List (String × String)}
    {entries : List (String × FieldType)} (h : ∀ t ∈ entries.map Prod.snd, Inferable t) :
    ∀ entry ∈ (settledFields (attributeEntries attributes ++ entries)).toList,
      Inferable entry.2 := by
  intro entry hentry
  rcases List.mem_append.mp (mem_of_mem_settledFields hentry) with hattr | hchild
  · obtain ⟨⟨name, value⟩, _, rfl⟩ := List.mem_map.mp hattr
    exact .attributeValue value
  · exact h entry.2 (List.mem_map_of_mem hchild)

mutual

theorem listing_inferable (typing : StringTyping) (package : String) :
    ∀ (name : String) (element : Element),
      (listing typing package name element).IsInferable (fun t => [t])
  | _, .scalar s => Listing.isInferable_of_inferable (.leaf typing s)
  | name, .container origin attributes children => by
      rw [listing]
      cases containerShape origin attributes children with
      | error f => exact Listing.isInferable_of_error fun c hc => by cases hc
      | ok shape =>
          cases shape with
          | null => exact Listing.isInferable_of_inferable inferable_null
          | list => exact listingOfFirst_inferable typing package origin name children
          | object =>
              have ih := listingOfChildren_inferable typing package children
              cases hresult : (listingOfChildren typing package children).result with
              | error f =>
                  simp only [hresult]
                  exact Listing.isInferable_of_error ih.classes
              | ok entries =>
                  simp only [hresult]
                  -- the object's own class stands behind those of its children
                  refine ⟨fun c hc => ?_, fun a ha t ht => ?_⟩
                  · rcases List.mem_append.mp hc with hc | hc
                    · exact ih.classes c hc
                    · rw [List.mem_singleton.mp hc]
                      exact inferable_settledFields (ih.result entries hresult)
                  · cases ha
                    rw [List.mem_singleton.mp ht]
                    exact .objectRef _

theorem listingOfFirst_inferable (typing : StringTyping) (package : String) (origin : Origin)
    (name : String) :
    ∀ children : List (String × Element),
      (listingOfFirst typing package origin name children).IsInferable (fun t => [t])
  | [] => Listing.isInferable_of_inferable (.listOf inferable_null)
  | (tag, first) :: _ => by
      rw [listingOfFirst]
      have ih := listing_inferable typing package
        (if origin = .xml then tag else singular name) first
      refine ⟨ih.classes, fun a ha t ht => ?_⟩
      obtain ⟨item, hitem, rfl⟩ := exists_of_map_eq_ok ha
      rw [List.mem_singleton.mp ht]
      exact .listOf (ih.result item hitem item (List.mem_singleton_self item))

theorem listingOfChildren_inferable (typing : StringTyping) (package : String) :
    ∀ children : List (String × Element),
      (listingOfChildren typing package children).IsInferable (List.map Prod.snd)
  | [] => ⟨fun c hc => (by cases hc), fun a ha t ht => by cases ha; cases ht⟩
  | (field, child) :: others => by
      rw [listingOfChildren]
      cases capitalize field with
      | error f => exact Listing.isInferable_of_error fun c hc => by cases hc
      | ok name =>
          have ihChild := listing_inferable typing package name child
          have ihOthers := listingOfChildren_inferable typing package others
          cases hchild : (listing typing package name child).result with
          | error f =>
              simp only [hchild]
              exact Listing.isInferable_of_error ihChild.classes
          | ok u =>
              simp only [hchild]
              refine ⟨fun c hc => ?_, fun a ha t ht => ?_⟩
              · rcases List.mem_append.mp hc with hc | hc
                · exact ihChild.classes c hc
                · exact ihOthers.classes c hc
              · obtain ⟨rest, hrest, rfl⟩ := exists_of_map_eq_ok ha
                rcases List.mem_cons.mp ht with rfl | ht
                · exact ihChild.result _ hchild _ (List.mem_singleton_self _)
                · exact ihOthers.result rest hrest t ht

end

/-! ## Any number of documents -/

/-- A registered class was registered before or is one of those that are registered now. -/
theorem mem_foldl_register {r : Registry} {classes : List ClassDefinition} {c : ClassDefinition}
    (hc : c ∈ (classes.foldl Registry.register r).toList) : c ∈ classes ∨ c ∈ r.toList := by
  induction classes generalizing r with
  | nil => exact Or.inr hc
  | cons d ds ih =>
      rcases ih hc with hlater | hnow
      · exact Or.inl (List.mem_cons_of_mem d hlater)
      · rcases Keyed.mem_insert hnow with rfl | hbefore
        · exact Or.inl List.mem_cons_self
        · exact Or.inr hbefore

/-- All registered fields and all answers have inferable types. -/
structure Session.Inferable (s : Session) : Prop where
  classes : ∀ c ∈ s.registry.toList, ∀ entry ∈ c.fields.toList, Inference.Inferable entry.2
  results : ∀ t, .ok t ∈ s.results → Inference.Inferable t

/-- One call, successful or not, adds inferable types only. -/
theorem Session.Inferable.call {s : Session} (hs : s.Inferable) (c : Call) :
    (s.call c).Inferable := by
  obtain ⟨hclasses, hresult⟩ := listing_inferable c.typing c.package c.name c.element
  rw [Session.call_eq_listing]
  refine ⟨fun d hd => ?_, fun t ht => ?_⟩
  · rcases mem_foldl_register hd with hnew | hold
    · exact hclasses d hnew
    · exact hs.classes d hold
  · rcases List.mem_append.mp ht with hold | hnew
    · exact hs.results t hold
    · exact hresult t (List.mem_singleton.mp hnew).symm t (List.mem_singleton_self t)

theorem Session.inferable_fresh : Session.fresh.Inferable :=
  ⟨fun c hc => (by cases hc), fun t ht => by cases ht⟩

theorem Session.inferable_run (calls : List Call) : (Session.run calls).Inferable :=
  Session.run_invariant Session.inferable_fresh (fun _ c hs => hs.call c) calls

/-! ## Boxing -/

theorem wellBoxed_of_mem_scalarTypes {t : FieldType} (h : t ∈ scalarTypes) : t.WellBoxed := by
  refine FieldType.wellBoxed_of_not_list ?_ ?_
  · revert t
    decide
  · revert t
    decide

theorem Inferable.wellBoxed {t : FieldType} (h : Inferable t) : t.WellBoxed := by
  induction h with
  | leaf typing s => exact wellBoxed_of_mem_scalarTypes (leafType_mem typing s)
  | attributeValue value => exact wellBoxed_of_mem_scalarTypes (attributeType_mem value)
  | listOf _ ih => exact ih.listOf_boxed
  | objectRef name => exact FieldType.wellBoxed_of_not_list rfl (by simp [FieldType.boxedNumbers])

/-- The types of registered fields are well boxed after any calls, failed ones included. -/
theorem Session.wellBoxed_run (calls : List Call) : (Session.run calls).registry.WellBoxed :=
  fun c hc entry hentry => ((Session.inferable_run calls).classes c hc entry hentry).wellBoxed

/-- The types of fields in the schema of a document are well boxed, whether identical classes are
merged or not. -/
theorem wellBoxed_of_infer {options : Options} {rootName : String} {element : Element} {s : Schema}
    (hinfer : infer options rootName element = .ok s) : s.registry.WellBoxed := by
  obtain ⟨package, name, hroot⟩ := exists_splitRoot_of_infer hinfer
  refine infer_invariant (fun u hrun => ?_) (fun u hu => ?_) hinfer
  · intro c hc entry hentry
    rw [(listing_of_run hroot hrun).2] at hc
    rcases mem_foldl_register hc with hlisted | hnone
    · have hlisting := listing_inferable options.stringTyping package name element
      exact (hlisting.classes c hlisted entry hentry).wellBoxed
    · cases hnone
  · exact u.represents_merge.wellBoxed hu

end Specimen.Inference
