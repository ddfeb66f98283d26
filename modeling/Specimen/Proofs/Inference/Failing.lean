import Specimen.Proofs.Inference.FieldNames
import Specimen.Proofs.Inference.Qualified

set_option autoImplicit false

/-! # When an inference fails

An inference fails for one of three reasons, and this file says exactly for which inputs: the text
is no document, the name of the root class lacks a part, or an object that counts has a member
without a name. `generate_failure_kinds` puts the three together, with their kinds and their order;
contradictory shapes never come out of a document that is read.

What is behind it is `listing_emptyNameIff`, for any tree of a document: typing fails exactly if a
sampled object has a child without a name. The induction is on the tree; an object that fails may
hide others inside it, which does not matter, since one is enough. Of XML documents no object is
like that, and for JSON documents the sampled objects are found in the value itself
(`exists_nameless_ofJson_iff`).
-/

namespace Specimen.Json

/-- `v.Samples w`: the value `w` counts for the type of `v`. Every member of an object does, and of
an array the first element. -/
inductive Value.Samples : Value → Value → Prop
  | self (v : Value) : Samples v v
  | member {members : List (String × Value)} {name : String} {v w : Value}
      (hmember : (name, v) ∈ members) (h : Samples v w) : Samples (.object members) w
  | first {v w : Value} {others : List Value} (h : Samples v w) : Samples (.array (v :: others)) w

/-- Some object that counts has a member without a name. -/
def Value.HasNamelessMember (v : Value) : Prop :=
  ∃ members, v.Samples (.object members) ∧ "" ∈ members.map Prod.fst

theorem Value.hasNamelessMember_array_iff {v : Value} {others : List Value} :
    (Value.array (v :: others)).HasNamelessMember ↔ v.HasNamelessMember := by
  constructor
  · rintro ⟨members, h, hname⟩
    cases h with
    | first h => exact ⟨members, h, hname⟩
  · rintro ⟨members, h, hname⟩
    exact ⟨members, .first h, hname⟩

theorem Value.not_hasNamelessMember_nil : ¬ (Value.array []).HasNamelessMember := by
  rintro ⟨members, h, _⟩
  cases h

theorem Value.hasNamelessMember_object_iff {members : List (String × Value)} :
    (Value.object members).HasNamelessMember ↔
      "" ∈ members.map Prod.fst ∨ ∃ m ∈ members, m.2.HasNamelessMember := by
  constructor
  · rintro ⟨inner, h, hname⟩
    cases h with
    | self => exact Or.inl hname
    | member hmember h => exact Or.inr ⟨_, hmember, inner, h, hname⟩
  · rintro (hname | ⟨⟨name, v⟩, hmember, inner, h, hname⟩)
    · exact ⟨members, .self _, hname⟩
    · exact ⟨inner, .member hmember h, hname⟩

end Specimen.Json

namespace Specimen.Inference

open Specimen.Document Specimen.Json Specimen.Schema Specimen.Text

/-! ## Results that only lack names -/

/-- A result is missing exactly if `P` holds, and then because a class would have no name. -/
def EmptyNameIff {α : Type} (result : Except Failure α) (P : Prop) : Prop :=
  ∀ f, result = .error f ↔ f = .emptyName ∧ P

section EmptyNameIff

variable {α β : Type} {x : Except Failure α} {P Q : Prop}

theorem emptyNameIff_ok {a : α} (h : ¬ P) : EmptyNameIff (.ok a) P := by
  intro f
  simp [h]

theorem emptyNameIff_error (h : P) : EmptyNameIff (.error .emptyName : Except Failure α) P := by
  intro f
  simp [h, eq_comm]

theorem EmptyNameIff.congr (h : EmptyNameIff x P) (hPQ : P ↔ Q) : EmptyNameIff x Q :=
  fun f => (h f).trans (and_congr_right fun _ => hPQ)

theorem EmptyNameIff.map (h : EmptyNameIff x P) (g : α → β) : EmptyNameIff (x.map g) P := by
  intro f
  rw [← h f]
  cases x <;> simp [Except.map]

/-- One result after another is missing if either is. -/
theorem EmptyNameIff.bind (h : EmptyNameIff x P) {g : α → Except Failure β}
    (hg : ∀ a, EmptyNameIff (g a) Q) : EmptyNameIff (x.bind g) (P ∨ Q) := by
  intro f
  cases x with
  | error e =>
      obtain ⟨rfl, hP⟩ := (h e).mp rfl
      simp [Except.bind, hP, eq_comm]
  | ok a =>
      have hP : ¬ P := fun hP => by cases (h .emptyName).mpr ⟨rfl, hP⟩
      rw [or_iff_right hP, ← hg a f]
      rfl

theorem EmptyNameIff.exists_ok_iff (h : EmptyNameIff x P) : (∃ a, x = .ok a) ↔ ¬ P := by
  constructor
  · rintro ⟨a, rfl⟩ hP
    cases (h .emptyName).mpr ⟨rfl, hP⟩
  · intro hP
    cases x with
    | error f => exact absurd ((h f).mp rfl).2 hP
    | ok a => exact ⟨a, rfl⟩

end EmptyNameIff

theorem capitalize_emptyNameIff (name : String) : EmptyNameIff (capitalize name) (name = "") := by
  unfold capitalize
  cases h : name.toList with
  | nil => exact emptyNameIff_error (String.ext h)
  | cons c r =>
      refine emptyNameIff_ok ?_
      rintro rfl
      cases h

/-! ## Trees -/

/-- One of the children has no name. -/
def HasNamelessChild (children : List (String × Element)) : Prop := "" ∈ children.map Prod.fst

/-- In a document each container has a shape. -/
theorem exists_containerShape {format : Format} {origin : Origin}
    {attributes : List (String × String)} {children : List (String × Element)}
    (h : (Element.container origin attributes children).IsTreeOf format) :
    ∃ shape, containerShape origin attributes children = .ok shape := by
  cases h with
  | xml _ _ _ =>
      unfold containerShape
      dsimp only
      split_ifs <;> exact ⟨_, rfl⟩
  | array _ => exact ⟨_, rfl⟩
  | object _ => exact ⟨_, rfl⟩

mutual

/-- **A part of a document has no type exactly if a sampled object has a child without a name.** -/
theorem listing_emptyNameIff (typing : StringTyping) (package : String) (format : Format) :
    ∀ (name : String) (element : Element), element.IsTreeOf format →
      EmptyNameIff (listing typing package name element).result
        (∃ o ∈ sampledObjects name element, HasNamelessChild o.children)
  | _, .scalar _, _ => emptyNameIff_ok (by simp [sampledObjects])
  | name, .container origin attributes children, h => by
      obtain ⟨shape, hshape⟩ := exists_containerShape h
      rw [listing, sampledObjects]
      simp only [hshape]
      cases shape with
      | null => exact emptyNameIff_ok (by simp)
      | list => exact listingOfFirst_emptyNameIff typing package format origin name children h.of_mem
      | object =>
          have ih := listingOfChildren_emptyNameIff typing package format children h.of_mem
          have hmap : ∀ l : Listing (List (String × FieldType)),
              EmptyNameIff l.result (HasNamelessChild children ∨
                ∃ o ∈ sampledInChildren children, HasNamelessChild o.children) →
              EmptyNameIff (l.result.map fun _ => FieldType.objectRef (qualify package name))
                (∃ o ∈ sampledInChildren children ++ [⟨name, attributes, children⟩],
                  HasNamelessChild o.children) := by
            intro l hl
            refine (hl.map _).congr ?_
            simp [or_and_right, exists_or, or_comm]
          have hresult := hmap _ ih
          cases hchildren : (listingOfChildren typing package children).result with
          | error f =>
              rw [hchildren] at hresult
              exact hresult
          | ok entries =>
              rw [hchildren] at hresult
              exact hresult

theorem listingOfFirst_emptyNameIff (typing : StringTyping) (package : String) (format : Format)
    (origin : Origin) (name : String) :
    ∀ children : List (String × Element), (∀ c ∈ children, c.2.IsTreeOf format) →
      EmptyNameIff (listingOfFirst typing package origin name children).result
        (∃ o ∈ sampledInFirst origin name children, HasNamelessChild o.children)
  | [], _ => emptyNameIff_ok (by simp [sampledInFirst])
  | (tag, first) :: _, h => by
      rw [List.forall_mem_cons] at h
      rw [listingOfFirst, sampledInFirst]
      exact (listing_emptyNameIff typing package format _ first h.1).map _

theorem listingOfChildren_emptyNameIff (typing : StringTyping) (package : String)
    (format : Format) :
    ∀ children : List (String × Element), (∀ c ∈ children, c.2.IsTreeOf format) →
      EmptyNameIff (listingOfChildren typing package children).result
        (HasNamelessChild children ∨
          ∃ o ∈ sampledInChildren children, HasNamelessChild o.children)
  | [], _ => emptyNameIff_ok (by simp [sampledInChildren, HasNamelessChild])
  | (field, child) :: others, h => by
      rw [List.forall_mem_cons] at h
      have hfield := capitalize_emptyNameIff field
      have hothers := listingOfChildren_emptyNameIff typing package format others h.2
      cases hname : capitalize field with
      | error f =>
          -- the object itself has the child without a name, whatever is inside the others
          rw [hname] at hfield
          obtain ⟨rfl, rfl⟩ := (hfield f).mp rfl
          rw [listingOfChildren, hname]
          exact emptyNameIff_error (by simp [HasNamelessChild])
      | ok name =>
          have hne : field ≠ "" := hfield.exists_ok_iff.mp ⟨name, hname⟩
          have hchild := listing_emptyNameIff typing package format name child h.1
          rw [result_listingOfChildren_cons hname, sampledInChildren, hname]
          refine (hchild.bind fun t => hothers.map _).congr ?_
          simp [HasNamelessChild, Ne.symm hne, or_and_right, exists_or, or_left_comm]

end

/-! ## The objects of the two formats -/

/-- **No object of an XML document** has a child without a name. -/
theorem not_hasNamelessChild_of_xml {name : String} {element : Element}
    (h : element.IsTreeOf .xml) : ∀ o ∈ sampledObjects name element,
      ¬ HasNamelessChild o.children := by
  intro o ho hnameless
  obtain ⟨origin, htree⟩ := exists_isTreeOf_of_sampled h o ho
  obtain ⟨c, hc, hempty⟩ := List.mem_map.mp hnameless
  exact htree.child_ne_empty c hc hempty

/-- Scalars hold no object, neither as values nor as parts of a document. -/
theorem exists_nameless_scalar_iff {name : String} {v : Value} {x : Scalar}
    (h : Element.ofJson v = .scalar x) :
    (∃ o ∈ sampledObjects name (Element.ofJson v), HasNamelessChild o.children) ↔
      v.HasNamelessMember := by
  refine iff_of_false ?_ ?_
  · rw [h]
    simp [sampledObjects]
  · rintro ⟨members, hsamples, _⟩
    cases hsamples <;> cases h

mutual

/-- **The sampled objects of a JSON document** are the objects of its value that count. -/
theorem exists_nameless_ofJson_iff : ∀ (name : String) (v : Value),
    (∃ o ∈ sampledObjects name (Element.ofJson v), HasNamelessChild o.children) ↔
      v.HasNamelessMember
  | _, .null => exists_nameless_scalar_iff rfl
  | _, .bool _ => exists_nameless_scalar_iff rfl
  | _, .number _ => exists_nameless_scalar_iff rfl
  | _, .text _ => exists_nameless_scalar_iff rfl
  | name, .array [] => by
      refine iff_of_false ?_ Value.not_hasNamelessMember_nil
      simp [Element.ofJson, Element.ofItems, sampledObjects, containerShape, sampledInFirst]
  | name, .array (v :: vs) => by
      rw [Value.hasNamelessMember_array_iff, ← exists_nameless_ofJson_iff (singular name) v]
      rfl
  | name, .object members => by
      rw [Value.hasNamelessMember_object_iff, ← nameless_ofMembers_iff members, Element.ofJson,
        sampledObjects]
      show (∃ o ∈ sampledInChildren (Element.ofMembers members) ++
        [⟨name, [], Element.ofMembers members⟩], HasNamelessChild o.children) ↔ _
      simp [or_and_right, exists_or, or_comm]

/-- What is inside a member without a name is not sampled, but then its object is one. -/
theorem nameless_ofMembers_iff : ∀ members : List (String × Value),
    (HasNamelessChild (Element.ofMembers members) ∨
        ∃ o ∈ sampledInChildren (Element.ofMembers members), HasNamelessChild o.children) ↔
      "" ∈ members.map Prod.fst ∨ ∃ m ∈ members, m.2.HasNamelessMember
  | [] => by simp [Element.ofMembers, sampledInChildren, HasNamelessChild]
  | (field, v) :: ms => by
      have ih := nameless_ofMembers_iff ms
      cases hname : capitalize field with
      | error f =>
          obtain ⟨rfl, rfl⟩ := (capitalize_emptyNameIff field f).mp hname
          exact iff_of_true (Or.inl (by simp [Element.ofMembers, HasNamelessChild]))
            (Or.inl (by simp))
      | ok name =>
          have hne : field ≠ "" := (capitalize_emptyNameIff field).exists_ok_iff.mp ⟨name, hname⟩
          have hv := exists_nameless_ofJson_iff name v
          rw [Element.ofMembers, sampledInChildren, hname]
          simp only [HasNamelessChild, List.map_cons, List.mem_cons, Ne.symm hne, false_or,
            List.mem_append, or_and_right, exists_or, exists_eq_left] at hv ih ⊢
          rw [hv, or_left_comm, ih, or_left_comm]

end

/-! ## All failures -/

theorem kind_of_read_eq_error {text : String} {format : Format} {f : Failure}
    (h : Document.read text format = .error f) : f.kind = .malformedInput := by
  cases format with
  | json =>
      rw [Document.read, readJson] at h
      cases hread : Json.read text <;> rw [hread] at h <;> cases h
      rfl
  | xml =>
      rw [Document.read, readXml] at h
      cases hread : Xml.read text <;> rw [hread] at h <;> cases h
      rfl

/-- The document is a JSON document, and some object that counts has a member without a name. -/
def HasNamelessPart (text : String) (format : Format) : Prop :=
  format = .json ∧ ∃ v, readJson text = .ok v ∧ v.HasNamelessMember

/-- The listing of a document that was read fails only because a part has no name. -/
theorem listing_emptyNameIff_of_read {text : String} {format : Format} {element : Element}
    (hread : Document.read text format = .ok element) (typing : StringTyping)
    (package name : String) :
    EmptyNameIff (listing typing package name element).result (HasNamelessPart text format) := by
  refine (listing_emptyNameIff typing package format name element (isTreeOf_of_read hread)).congr ?_
  cases format with
  | json =>
      obtain ⟨v, hv, rfl⟩ := exists_of_map_eq_ok hread
      rw [exists_nameless_ofJson_iff, HasNamelessPart, hv]
      simp
  | xml =>
      refine iff_of_false ?_ (fun h => by cases h.1)
      rintro ⟨o, ho, hnameless⟩
      exact not_hasNamelessChild_of_xml (isTreeOf_of_read hread) o ho hnameless

/-- **What inference does with a document that was read**: it refuses the root name if it lacks a
part, then the document if one of its parts has no name, and nothing else. -/
theorem infer_cases {text : String} {format : Format} {element : Element}
    (hread : Document.read text format = .ok element) (options : Options) (rootName : String) :
    (∃ f, infer options rootName element = .error f ∧ f.kind = .invalidArgument ∧
        (LacksPart rootName ∨ HasNamelessPart text format)) ∨
      ((∃ s, infer options rootName element = .ok s) ∧
        ¬ (LacksPart rootName ∨ HasNamelessPart text format)) := by
  by_cases hlacks : LacksPart rootName
  · cases hroot : splitRoot rootName with
    | ok parts => exact absurd hlacks ((exists_splitRoot_iff rootName).mp ⟨_, _, hroot⟩)
    | error f =>
        refine Or.inl ⟨f, ?_, kind_of_splitRoot_eq_error hroot, Or.inl hlacks⟩
        rw [infer, run, hroot]
        rfl
  · obtain ⟨package, name, hroot⟩ := (exists_splitRoot_iff rootName).mpr hlacks
    have hempty := listing_emptyNameIff_of_read hread options.stringTyping package name
    rw [infer, run_eq_listing hroot]
    cases hresult : (listing options.stringTyping package name element).result with
    | error f =>
        obtain ⟨rfl, hnameless⟩ := (hempty f).mp hresult
        exact Or.inl ⟨_, rfl, rfl, Or.inr hnameless⟩
    | ok t =>
        have hnameless := hempty.exists_ok_iff.mp ⟨t, hresult⟩
        exact Or.inr ⟨⟨_, rfl⟩, not_or.mpr ⟨hlacks, hnameless⟩⟩

/-- **Why an inference fails.** It never fails because a document contradicts itself. It fails for
a malformed text exactly if reading the text fails, whatever the root name is; and if the text can
be read, it fails for an argument exactly if the root name lacks a part or an object that counts
has a member without a name, and otherwise succeeds. -/
theorem generate_failure_kinds (options : Options) (rootName text : String) (format : Format) :
    (∀ f, generate options rootName text format = .error f → f.kind ≠ .unsupportedShape) ∧
    ((∃ f, generate options rootName text format = .error f ∧ f.kind = .malformedInput) ↔
      ∃ f, Document.read text format = .error f) ∧
    ∀ element, Document.read text format = .ok element →
      ((∃ f, generate options rootName text format = .error f ∧ f.kind = .invalidArgument) ↔
        LacksPart rootName ∨ HasNamelessPart text format) ∧
      ((∃ s, generate options rootName text format = .ok s) ↔
        ¬ (LacksPart rootName ∨ HasNamelessPart text format)) := by
  unfold generate
  cases hread : Document.read text format with
  | error f =>
      have hkind := kind_of_read_eq_error hread
      simp [Except.bind, hkind]
  | ok element =>
      show (∀ f, infer options rootName element = .error f → _) ∧ _
      rcases infer_cases hread options rootName with ⟨f, hf, hkind, hwhy⟩ | ⟨⟨s, hs⟩, hwhy⟩
      · simp [Except.bind, hf, hkind, hwhy]
      · simp [Except.bind, hs, hwhy]

end Specimen.Inference
