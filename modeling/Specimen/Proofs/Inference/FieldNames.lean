import Specimen.Proofs.Document.Trees
import Specimen.Proofs.Inference.Closure
import Specimen.Proofs.Inference.Naming

set_option autoImplicit false

/-! # Fields have names

A class without accessors for a field cannot be written, and there are none for a field without a
name. Inference checks only the names of children, because a class may have to be named after
them; the attributes it leaves alone. Still no class of a schema has a field without a name
(`hasNamedFields_of_infer`): attributes are there in XML documents only, where all of them have
names. A field is an attribute or a child of a sampled object, and sampled objects are parts of the
document, so the induction is the one behind `IsInherited.sampled`.
-/

namespace Specimen.Schema

/-- All fields of a class have names. -/
def ClassDefinition.HasNamedFields (c : ClassDefinition) : Prop :=
  ∀ field ∈ c.fields.toList, field.1 ≠ ""

/-- Redirecting references leaves the names of fields alone. -/
theorem ClassDefinition.HasNamedFields.mapRefs {c : ClassDefinition} (h : c.HasNamedFields)
    (f : String → String) : (c.mapRefs f).HasNamedFields := by
  intro field hfield
  obtain ⟨original, horiginal, rfl⟩ := List.mem_map.mp hfield
  exact h original horiginal

end Specimen.Schema

namespace Specimen.Inference

open Specimen.Document Specimen.Schema

theorem ne_empty_of_capitalize {m n : String} (h : capitalize m = .ok n) : m ≠ "" := by
  rintro rfl
  cases h

/-- Children with types have names. -/
theorem ne_empty_of_mem_entries {typing : StringTyping} {package : String}
    {children : List (String × Element)} {entries : List (String × FieldType)}
    (h : (listingOfChildren typing package children).result = .ok entries) :
    ∀ field ∈ entries, field.1 ≠ "" := by
  induction children generalizing entries with
  | nil =>
      cases h
      simp
  | cons first others ih =>
      obtain ⟨name, t, rest, hname, _, hothers, rfl, _⟩ := exists_of_listingOfChildren h
      rw [List.forall_mem_cons]
      exact ⟨ne_empty_of_capitalize hname, ih hothers⟩

/-- The class of a part of a document has no field without a name. -/
theorem SampledObject.hasNamedFields_of_class? {typing : StringTyping} {package : String}
    {format : Format} {origin : Origin} {o : SampledObject} {c : ClassDefinition}
    (htree : (Element.container origin o.attributes o.children).IsTreeOf format)
    (h : o.class? typing package = .ok c) : c.HasNamedFields := by
  obtain ⟨entries, hentries, rfl⟩ := exists_of_map_eq_ok h
  intro field hfield
  rcases List.mem_append.mp (mem_of_mem_settledFields hfield) with hattribute | hchild
  · obtain ⟨⟨name, value⟩, hmem, rfl⟩ := List.mem_map.mp hattribute
    exact htree.attribute_ne_empty (name, value) hmem
  · exact ne_empty_of_mem_entries hentries field hchild

/-- Each sampled object of a document is a container of the document. -/
theorem exists_isTreeOf_of_sampled {format : Format} {name : String} {element : Element}
    (htree : element.IsTreeOf format) : ∀ o ∈ sampledObjects name element,
      ∃ origin, (Element.container origin o.attributes o.children).IsTreeOf format :=
  IsInherited.sampled (fun _ _ _ h => h.of_mem) name element htree

/-- **No class of a document has a field without a name**, whether identical classes are merged or
not. -/
theorem hasNamedFields_of_infer {options : Options} {rootName : String} {format : Format}
    {element : Element} {s : Schema} (htree : element.IsTreeOf format)
    (hinfer : infer options rootName element = .ok s) :
    ∀ c ∈ s.registry.toList, c.HasNamedFields := by
  obtain ⟨package, name, hroot⟩ := exists_splitRoot_of_infer hinfer
  refine infer_invariant (fun u hrun c hc => ?_) (fun u hu c hc => ?_) hinfer
  · obtain ⟨o, ho, hclass⟩ := exists_sampled_of_run hroot hrun hc
    obtain ⟨origin, hobject⟩ := exists_isTreeOf_of_sampled htree o ho
    exact SampledObject.hasNamedFields_of_class? hobject hclass
  · -- merging keeps some of the classes and redirects their references
    obtain ⟨d, hd, _, rfl⟩ := u.represents_merge.mem_iff.mp hc
    exact (hu d hd).mapRefs _

end Specimen.Inference
