import Specimen.Proofs.Inference.Listing

set_option autoImplicit false

/-! # The objects that are sampled

Not every object of a document counts: of a list only the first element does. `sampledObjects`
lists the objects that do, inner ones first, each with the name that is proposed for its class.

`classes_eq_sampled` says that the classes of a listing are those of the sampled objects, one for
each. Two objects may be proposed one name, and then the class of the later one replaces that of
the earlier one; two children of one object may have one name, and then the type of the later one
replaces that of the earlier one. `ClassesAgree` and `SampledObject.FieldsAgree` say that such a
replacement changes nothing.
-/

namespace Specimen.Inference

open Specimen.Document Specimen.Schema

/-- An object of a document with the name that is proposed for its class. -/
structure SampledObject where
  /-- The name. -/
  name : String
  /-- The attributes. -/
  attributes : List (String × String)
  /-- The children. -/
  children : List (String × Element)

mutual

/-- The sampled objects of a part of a document that is called `name`. -/
def sampledObjects (name : String) : Element → List SampledObject
  | .scalar _ => []
  | .container origin attributes children =>
    match containerShape origin attributes children with
    | .ok .list => sampledInFirst origin name children
    | .ok .object => sampledInChildren children ++ [⟨name, attributes, children⟩]
    | _ => []

/-- The sampled objects of a list that is called `name`. -/
def sampledInFirst (origin : Origin) (name : String) : List (String × Element) → List SampledObject
  | [] => []
  | (tag, first) :: _ => sampledObjects (if origin = .xml then tag else singular name) first

/-- The sampled objects of an object's children, which are called after their fields. -/
def sampledInChildren : List (String × Element) → List SampledObject
  | [] => []
  | (field, child) :: others =>
    match capitalize field with
    | .ok name => sampledObjects name child ++ sampledInChildren others
    | .error _ => sampledInChildren others

end

/-- The class that an object gives, unless something inside it has no type. -/
def SampledObject.class? (typing : StringTyping) (package : String) (o : SampledObject) :
    Except Failure ClassDefinition :=
  (listingOfChildren typing package o.children).result.map fun entries =>
    ⟨qualify package o.name, settledFields (attributeEntries o.attributes ++ entries)⟩

/-- Objects with one name give one class. -/
def ClassesAgree (typing : StringTyping) (package : String) (objects : List SampledObject) : Prop :=
  ∀ o ∈ objects, ∀ o' ∈ objects, o.name = o'.name →
    o.class? typing package = o'.class? typing package

/-- Children of an object with one name have one type. -/
def SampledObject.FieldsAgree (typing : StringTyping) (package : String) (o : SampledObject) :
    Prop :=
  ∀ entries, (listingOfChildren typing package o.children).result = .ok entries →
    ∀ p ∈ entries, ∀ q ∈ entries, p.1 = q.1 → p.2 = q.2

/-! ## One class for each sampled object -/

mutual

/-- **The listed classes are those of the sampled objects**, one for each and in their order. -/
theorem classes_eq_sampled (typing : StringTyping) (package : String) :
    ∀ (name : String) (element : Element) (t : FieldType),
      (listing typing package name element).result = .ok t →
      (listing typing package name element).classes.map Except.ok
        = (sampledObjects name element).map (SampledObject.class? typing package)
  | _, .scalar _, _, _ => rfl
  | name, .container origin attributes children, t, h => by
      rw [sampledObjects]
      rcases listing_container_cases h with
        ⟨hshape, _, hclasses⟩ | ⟨hshape, heq⟩ | ⟨entries, hshape, hresult, _, hclasses⟩
      · rw [hclasses, hshape]
        rfl
      · rw [heq] at h ⊢
        rw [hshape]
        exact classesOfFirst_eq_sampled typing package origin name children t h
      · -- the object's own class comes last on both sides
        have ih := classesOfChildren_eq_sampled typing package children entries hresult
        rw [hclasses, hshape, List.map_append, List.map_append, ih]
        simp only [List.map_singleton, SampledObject.class?, hresult, Except.map]

theorem classesOfFirst_eq_sampled (typing : StringTyping) (package : String) (origin : Origin)
    (name : String) :
    ∀ (children : List (String × Element)) (t : FieldType),
      (listingOfFirst typing package origin name children).result = .ok t →
      (listingOfFirst typing package origin name children).classes.map Except.ok
        = (sampledInFirst origin name children).map (SampledObject.class? typing package)
  | [], _, _ => rfl
  | (tag, first) :: _, t, h => by
      obtain ⟨u, hu, _⟩ := exists_of_listingOfFirst h
      rw [listingOfFirst, sampledInFirst]
      exact classes_eq_sampled typing package _ first u hu

theorem classesOfChildren_eq_sampled (typing : StringTyping) (package : String) :
    ∀ (children : List (String × Element)) (entries : List (String × FieldType)),
      (listingOfChildren typing package children).result = .ok entries →
      (listingOfChildren typing package children).classes.map Except.ok
        = (sampledInChildren children).map (SampledObject.class? typing package)
  | [], _, _ => rfl
  | (field, child) :: others, entries, h => by
      obtain ⟨name, u, rest, hname, hchild, hothers, _, hclasses⟩ := exists_of_listingOfChildren h
      rw [hclasses, sampledInChildren, hname, List.map_append, List.map_append,
        classes_eq_sampled typing package name child u hchild,
        classesOfChildren_eq_sampled typing package others rest hothers]

end

/-- Each listed class is that of a sampled object. -/
theorem exists_sampled_of_mem_classes {typing : StringTyping} {package name : String}
    {element : Element} {t : FieldType}
    (h : (listing typing package name element).result = .ok t) {c : ClassDefinition}
    (hc : c ∈ (listing typing package name element).classes) :
    ∃ o ∈ sampledObjects name element, o.class? typing package = .ok c := by
  have hmem := List.mem_map_of_mem (f := Except.ok (ε := Failure)) hc
  rw [classes_eq_sampled typing package name element t h] at hmem
  obtain ⟨o, ho, hoc⟩ := List.mem_map.mp hmem
  exact ⟨o, ho, hoc⟩

/-- The class of an object is qualified by the package. -/
theorem SampledObject.qualifiedName_of_class? {typing : StringTyping} {package : String}
    {o : SampledObject} {c : ClassDefinition} (h : o.class? typing package = .ok c) :
    c.qualifiedName = qualify package o.name := by
  obtain ⟨entries, _, rfl⟩ := exists_of_map_eq_ok h
  rfl

/-- Qualified names in one package differ if the simple names do. -/
theorem qualify_injective (package : String) : Function.Injective (qualify package) := by
  intro m n h
  have hlist := congrArg String.toList h
  simp only [qualify, String.toList_append] at hlist
  exact String.ext (List.append_cancel_left hlist)

/-- If sampled objects with one name give one class, listed classes with one name are one class. -/
theorem ClassesAgree.classes_eq {typing : StringTyping} {package name : String} {element : Element}
    (hagree : ClassesAgree typing package (sampledObjects name element)) {t : FieldType}
    (h : (listing typing package name element).result = .ok t) :
    ∀ c ∈ (listing typing package name element).classes,
      ∀ d ∈ (listing typing package name element).classes,
        c.qualifiedName = d.qualifiedName → c = d := by
  intro c hc d hd hname
  obtain ⟨o, ho, hoc⟩ := exists_sampled_of_mem_classes h hc
  obtain ⟨o', ho', hod⟩ := exists_sampled_of_mem_classes h hd
  rw [SampledObject.qualifiedName_of_class? hoc, SampledObject.qualifiedName_of_class? hod] at hname
  have hclass := hagree o ho o' ho' (qualify_injective package hname)
  rw [hoc, hod] at hclass
  exact Except.ok.inj hclass

/-! ## Registering what agrees -/

/-- A registry after a document whose listed classes agree: each of them is registered. -/
theorem ClassesAgree.find?_eq_some {typing : StringTyping} {package name : String}
    {element : Element} (hagree : ClassesAgree typing package (sampledObjects name element))
    {t : FieldType} (h : (listing typing package name element).result = .ok t) (r : Registry) :
    ∀ c ∈ (listing typing package name element).classes,
      ((listing typing package name element).classes.foldl Registry.register r).find?
        c.qualifiedName = some c :=
  fun _ hc => Keyed.find?_foldl_insert_of_mem r (hagree.classes_eq h) hc

/-! ## What sampled objects inherit -/

/-- A property of parts of a document that containers hand down to their children. -/
def IsInherited (P : Element → Prop) : Prop :=
  ∀ origin attributes children, P (.container origin attributes children) →
    ∀ c ∈ children, P c.2

section Inherited

variable {P : Element → Prop}

mutual

/-- **A sampled object is a container of the document** and has what the document hands down. -/
theorem IsInherited.sampled (hP : IsInherited P) :
    ∀ (name : String) (element : Element), P element →
      ∀ o ∈ sampledObjects name element, ∃ origin, P (.container origin o.attributes o.children)
  | _, .scalar _, _ => by simp [sampledObjects]
  | name, .container origin attributes children, h => by
      have hchildren := hP origin attributes children h
      rw [sampledObjects]
      split
      · exact hP.sampledFirst origin name children hchildren
      · intro o ho
        rcases List.mem_append.mp ho with ho | ho
        · exact hP.sampledChildren children hchildren o ho
        · rw [List.mem_singleton.mp ho]
          exact ⟨origin, h⟩
      · simp

theorem IsInherited.sampledFirst (hP : IsInherited P) (origin : Origin) (name : String) :
    ∀ children : List (String × Element), (∀ c ∈ children, P c.2) →
      ∀ o ∈ sampledInFirst origin name children,
        ∃ origin, P (.container origin o.attributes o.children)
  | [], _ => by simp [sampledInFirst]
  | (tag, first) :: _, h => by
      rw [sampledInFirst]
      exact hP.sampled _ first (h (tag, first) List.mem_cons_self)

theorem IsInherited.sampledChildren (hP : IsInherited P) :
    ∀ children : List (String × Element), (∀ c ∈ children, P c.2) →
      ∀ o ∈ sampledInChildren children,
        ∃ origin, P (.container origin o.attributes o.children)
  | [], _ => by simp [sampledInChildren]
  | (field, child) :: others, h => by
      rw [List.forall_mem_cons] at h
      have hothers := hP.sampledChildren others h.2
      rw [sampledInChildren]
      split
      · next name _ =>
          intro o ho
          rcases List.mem_append.mp ho with ho | ho
          · exact hP.sampled name child h.1 o ho
          · exact hothers o ho
      · exact hothers

end

end Inherited

end Specimen.Inference
