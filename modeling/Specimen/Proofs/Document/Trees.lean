import Specimen.Proofs.Xml.Names

set_option autoImplicit false

/-! # Trees of documents

Not every tree is that of a document: JSON arrays and objects have no attributes, and in XML
documents all elements and attributes have names. `Element.IsTreeOf` says this of a tree and of
everything below it, and `isTreeOf_of_read` says that reading gives no other trees. Names of the
members of JSON objects, however, may be empty.
-/

namespace Specimen.Document

open Specimen.Xml Specimen.Json

/-- A tree as the documents of a format give it. -/
inductive Element.IsTreeOf : Format → Element → Prop
  | scalar (format : Format) (s : Scalar) : IsTreeOf format (.scalar s)
  | xml {attributes : List (String × String)} {children : List (String × Element)}
      (hattributes : ∀ a ∈ attributes, a.1 ≠ "") (hnames : ∀ c ∈ children, c.1 ≠ "")
      (hchildren : ∀ c ∈ children, c.2.IsTreeOf .xml) :
      IsTreeOf .xml (.container .xml attributes children)
  | array {children : List (String × Element)} (hchildren : ∀ c ∈ children, c.2.IsTreeOf .json) :
      IsTreeOf .json (.container .jsonArray [] children)
  | object {children : List (String × Element)} (hchildren : ∀ c ∈ children, c.2.IsTreeOf .json) :
      IsTreeOf .json (.container .jsonObject [] children)

namespace Element

variable {format : Format} {origin : Origin} {attributes : List (String × String)}
  {children : List (String × Element)}

theorem IsTreeOf.of_mem (h : (container origin attributes children).IsTreeOf format) :
    ∀ c ∈ children, c.2.IsTreeOf format := by
  cases h with
  | xml _ _ hchildren => exact hchildren
  | array hchildren => exact hchildren
  | object hchildren => exact hchildren

theorem IsTreeOf.attribute_ne_empty (h : (container origin attributes children).IsTreeOf format) :
    ∀ a ∈ attributes, a.1 ≠ "" := by
  cases h with
  | xml hattributes _ _ => exact hattributes
  | array _ => simp
  | object _ => simp

theorem IsTreeOf.child_ne_empty (h : (container origin attributes children).IsTreeOf .xml) :
    ∀ c ∈ children, c.1 ≠ "" := by
  cases h with
  | xml _ hnames _ => exact hnames

end Element

/-! ## What is read -/

mutual

theorem Element.isTreeOf_ofJson : ∀ v : Value, (Element.ofJson v).IsTreeOf .json
  | .null => .scalar _ _
  | .bool _ => .scalar _ _
  | .number _ => .scalar _ _
  | .text _ => .scalar _ _
  | .array items => .array (isTreeOf_of_mem_ofItems 0 items)
  | .object members => .object (isTreeOf_of_mem_ofMembers members)

theorem Element.isTreeOf_of_mem_ofItems (index : Nat) :
    ∀ items : List Value, ∀ c ∈ Element.ofItems index items, c.2.IsTreeOf .json
  | [] => by simp [Element.ofItems]
  | v :: vs => by
      rw [Element.ofItems, List.forall_mem_cons]
      exact ⟨isTreeOf_ofJson v, isTreeOf_of_mem_ofItems (index + 1) vs⟩

theorem Element.isTreeOf_of_mem_ofMembers :
    ∀ members : List (String × Value), ∀ c ∈ Element.ofMembers members, c.2.IsTreeOf .json
  | [] => by simp [Element.ofMembers]
  | (_, v) :: ms => by
      rw [Element.ofMembers, List.forall_mem_cons]
      exact ⟨isTreeOf_ofJson v, isTreeOf_of_mem_ofMembers ms⟩

end

theorem ne_empty_of_isLocalName {name : String} (h : IsLocalName name.toList) : name ≠ "" := by
  rintro rfl
  exact h.1 rfl

mutual

theorem Element.isTreeOf_ofXml : ∀ n : Node, n.IsNamed → (Element.ofXml n).IsTreeOf .xml
  | .text _, _ => .scalar _ _
  | .comment _, _ => .scalar _ _
  | .instruction _ _, _ => .scalar _ _
  | .element tag attributes nodes, h => by
      cases h with
      | element _ hattributes hnodes =>
          have hparts := isTreeOf_of_mem_ofNodes nodes hnodes
          rw [Element.ofXml]
          split_ifs
          · exact .scalar _ _
          · refine .xml (fun a ha => ?_) (fun c hc => (hparts c hc).1) (fun c hc => (hparts c hc).2)
            exact ne_empty_of_isLocalName (hattributes a ha)

theorem Element.isTreeOf_of_mem_ofNodes :
    ∀ nodes : List Node, (∀ n ∈ nodes, n.IsNamed) →
      ∀ c ∈ Element.ofNodes nodes, c.1 ≠ "" ∧ c.2.IsTreeOf .xml
  | [], _ => by simp [Element.ofNodes]
  | .text _ :: ns, h => isTreeOf_of_mem_ofNodes ns (List.forall_mem_cons.mp h).2
  | .comment _ :: ns, h => isTreeOf_of_mem_ofNodes ns (List.forall_mem_cons.mp h).2
  | .instruction _ _ :: ns, h => isTreeOf_of_mem_ofNodes ns (List.forall_mem_cons.mp h).2
  | .element tag attributes nodes :: ns, h => by
      rw [List.forall_mem_cons] at h
      rw [Element.ofNodes, List.forall_mem_cons]
      refine ⟨⟨?_, isTreeOf_ofXml (.element tag attributes nodes) h.1⟩,
        isTreeOf_of_mem_ofNodes ns h.2⟩
      cases h.1 with
      | element htag _ _ => exact ne_empty_of_isLocalName htag

end

theorem isTreeOf_of_readXml {text : String} {element : Element} (h : readXml text = .ok element) :
    element.IsTreeOf .xml := by
  obtain ⟨n, hn, rfl⟩ := exists_of_map_eq_ok (exists_of_mapError_eq_ok h)
  exact Element.isTreeOf_ofXml n (read_isNamed hn)

/-- **Reading gives trees of the document's format.** -/
theorem isTreeOf_of_read {text : String} {format : Format} {element : Element}
    (h : Document.read text format = .ok element) : element.IsTreeOf format := by
  cases format with
  | json =>
      obtain ⟨v, _, rfl⟩ := exists_of_map_eq_ok h
      exact Element.isTreeOf_ofJson v
  | xml => exact isTreeOf_of_readXml h

end Specimen.Document
