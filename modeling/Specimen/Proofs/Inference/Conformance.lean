import Mathlib.Data.List.Forall2
import Specimen.Proofs.Inference.Sampled
import Specimen.Proofs.Number.Whole

set_option autoImplicit false

/-! # A sample conforms to its schema

Which documents a schema describes, said without the builder: a type accepts leaves by what they
denote, a list type accepts lists by their first elements, and a reference to a class accepts the
objects whose names are the class's fields, in order, and whose parts the fields' types accept
(`Accepts`). A repeated name stands where it occurs first and counts as it occurs last.

`run_accepts` says that the schema of a document accepts the document, if objects that are
proposed one name give one class. What carries the induction over the document is the final
registry, not the one a class was built in: all that is needed of it is that each listed class is
found under its name (`accepts_listing`), and a class that is registered again in between is the
same class.
-/

namespace Specimen.Inference

open Specimen.Document Specimen.Number Specimen.Schema

/-! ## What a type accepts -/

/-- The numbers of type `integer`: the integers below `2³¹ - 1`, and negative infinity. -/
def IsIntegerValue (x : Binary64) : Prop :=
  x = Binary64.infinity true ∨ ∃ k : Int, x.IsInteger k ∧ k < 2147483647

/-- The numbers of type `long`: the integers from `2³¹ - 1` on, and positive infinity. -/
def IsLongValue (x : Binary64) : Prop :=
  x = Binary64.infinity false ∨ ∃ k : Int, x.IsInteger k ∧ 2147483647 ≤ k

/-- The numbers of type `double`: those that are no integers, and what is no number at all. -/
def IsDoubleValue (x : Binary64) : Prop :=
  x.isNaN = true ∨ (x.IsFinite ∧ ∀ k : Int, ¬ x.IsInteger k)

/-- A type accepts a number, as a value or boxed. -/
inductive AcceptsNumber : FieldType → Binary64 → Prop
  | integer {x : Binary64} (h : IsIntegerValue x) : AcceptsNumber .integer x
  | long {x : Binary64} (h : IsLongValue x) : AcceptsNumber .long x
  | double {x : Binary64} (h : IsDoubleValue x) : AcceptsNumber .double x
  | boxedInteger {x : Binary64} (h : IsIntegerValue x) : AcceptsNumber .boxedInteger x
  | boxedLong {x : Binary64} (h : IsLongValue x) : AcceptsNumber .boxedLong x
  | boxedDouble {x : Binary64} (h : IsDoubleValue x) : AcceptsNumber .boxedDouble x

/-- A type accepts character data, which counts by what it denotes. -/
inductive AcceptsToken : FieldType → String → Prop
  | empty : AcceptsToken .null ""
  | yes : AcceptsToken .boolean "true"
  | no : AcceptsToken .boolean "false"
  | number {t : FieldType} {token : String} {x : Binary64} (hx : tokenNumber? token = some x)
      (h : AcceptsNumber t x) : AcceptsToken t token
  | other {token : String} (hempty : token ≠ "") (hyes : token ≠ "true") (hno : token ≠ "false")
      (hnumber : tokenNumber? token = none) : AcceptsToken .string token

/-- A type accepts the value of an attribute, which is there even if it is empty. -/
inductive AcceptsAttribute : FieldType → String → Prop
  | empty : AcceptsAttribute .string ""
  | token {t : FieldType} {value : String} (hempty : value ≠ "") (h : AcceptsToken t value) :
      AcceptsAttribute t value

/-- A type accepts a leaf. Strings that a document marks as such are strings, unless they are to
be typed by what they denote. -/
inductive AcceptsScalar (typing : StringTyping) : FieldType → Scalar → Prop
  | null : AcceptsScalar typing .null .null
  | bool (b : Bool) : AcceptsScalar typing .boolean (.bool b)
  | number {t : FieldType} {x : Binary64} (h : AcceptsNumber t x) :
      AcceptsScalar typing t (.number x)
  | text {value : String} (h : typing = .literal) : AcceptsScalar typing .string (.text value)
  | sniffed {t : FieldType} {value : String} (h : typing = .sniff) (ht : AcceptsToken t value) :
      AcceptsScalar typing t (.text value)
  | token {t : FieldType} {value : String} (h : AcceptsToken t value) :
      AcceptsScalar typing t (.token value)

/-- A type accepts a part of a document, given the classes that it may refer to. -/
inductive Accepts (typing : StringTyping) (r : Registry) : FieldType → Element → Prop
  | scalar {t : FieldType} {s : Scalar} (h : AcceptsScalar typing t s) :
      Accepts typing r t (.scalar s)
  | bare : Accepts typing r .null (.container .xml [] [])
  | emptyList {origin : Origin} {attributes : List (String × String)}
      (hshape : containerShape origin attributes [] = .ok .list) :
      Accepts typing r (.listOf .null) (.container origin attributes [])
  | list {t : FieldType} {origin : Origin} {attributes : List (String × String)} {tag : String}
      {first : Element} {others : List (String × Element)}
      (hshape : containerShape origin attributes ((tag, first) :: others) = .ok .list)
      (hfirst : Accepts typing r t first) :
      Accepts typing r (.listOf t) (.container origin attributes ((tag, first) :: others))
  | object {name : String} {c : ClassDefinition} {origin : Origin}
      {attributes : List (String × String)} {children : List (String × Element)}
      (hshape : containerShape origin attributes children = .ok .object)
      (hfind : r.find? name = some c)
      (hnames : c.fields.keys = (attributes.map Prod.fst ++ children.map Prod.fst).eraseDups)
      (hchildren : ∀ field ∈ c.fields.toList, ∀ child,
        Keyed.lastWith Prod.fst children field.1 = some child → Accepts typing r field.2 child.2)
      (hattributes : ∀ field ∈ c.fields.toList,
        Keyed.lastWith Prod.fst children field.1 = none → ∀ attr,
          Keyed.lastWith Prod.fst attributes field.1 = some attr →
            AcceptsAttribute field.2 attr.2) :
      Accepts typing r (.objectRef name) (.container origin attributes children)

/-! ## Leaves -/

/-- The type of an integer, by its value. -/
def integerType (n : Int) : FieldType := if 2147483647 ≤ n then .long else .integer

theorem numberType_of_isInteger {x : Binary64} {k : Int} (hk : x.IsInteger k) :
    numberType x = integerType k := by
  obtain ⟨hnan, hinfinite⟩ := Binary64.isFinite_iff.mp hk.1
  have hwhole : x.isWhole = true := (Binary64.isWhole_iff hk.1).mpr ⟨k, hk⟩
  -- sign and units, which the type depends on, say whether the integer reaches the threshold
  have hle := hk.natCast_le_iff (n := longThreshold) (by decide)
  have hthreshold : ((longThreshold : Nat) : Int) = 2147483647 := rfl
  rw [hthreshold] at hle
  unfold numberType integerType
  rw [hnan, hinfinite, hwhole, if_neg Bool.false_ne_true, if_neg Bool.false_ne_true, Bool.not_true,
    if_neg Bool.false_ne_true]
  exact if_congr (by simpa using hle.symm) rfl rfl

/-- **The type of a number is decided by its exact value.** -/
theorem acceptsNumber_numberType (x : Binary64) : AcceptsNumber (numberType x) x := by
  by_cases hinteger : ∃ k : Int, x.IsInteger k
  · obtain ⟨k, hk⟩ := hinteger
    rw [numberType_of_isInteger hk, integerType]
    by_cases hlong : 2147483647 ≤ k
    · rw [if_pos hlong]
      exact .long (Or.inr ⟨k, hk, hlong⟩)
    · rw [if_neg hlong]
      exact .integer (Or.inr ⟨k, hk, not_le.mp hlong⟩)
  unfold numberType
  by_cases hnan : x.isNaN = true
  · rw [if_pos hnan]
    exact .double (Or.inl hnan)
  rw [if_neg hnan]
  by_cases hinf : x.isInfinite = true
  · rw [if_pos hinf]
    have hx := Binary64.eq_infinity_of_isInfinite hinf
    cases hsign : x.negative with
    | true => exact .integer (Or.inl (hsign ▸ hx))
    | false => exact .long (Or.inl (hsign ▸ hx))
  rw [if_neg hinf]
  have hfinite : x.IsFinite :=
    Binary64.isFinite_iff.mpr ⟨by simpa using hnan, by simpa using hinf⟩
  have hfraction : x.isWhole = false := by
    rwa [← Bool.not_eq_true, Binary64.isWhole_iff hfinite]
  rw [hfraction, Bool.not_false, if_pos rfl]
  exact .double (Or.inr ⟨hfinite, not_exists.mp hinteger⟩)

theorem acceptsToken_tokenType (token : String) : AcceptsToken (tokenType token) token := by
  unfold tokenType
  by_cases hempty : token = ""
  · subst hempty
    exact .empty
  rw [if_neg (by simpa using hempty)]
  by_cases hword : token = "true" ∨ token = "false"
  · rw [if_pos hword]
    rcases hword with rfl | rfl
    · exact .yes
    · exact .no
  rw [if_neg hword]
  rw [not_or] at hword
  cases hnumber : tokenNumber? token with
  | none => exact .other hempty hword.1 hword.2 hnumber
  | some x => exact .number hnumber (acceptsNumber_numberType x)

/-- Only empty character data has no value. -/
theorem tokenType_eq_null_iff {token : String} : tokenType token = .null ↔ token = "" := by
  constructor
  · intro h
    have haccepts := acceptsToken_tokenType token
    rw [h] at haccepts
    cases haccepts with
    | empty => rfl
    | number _ hx => cases hx
  · rintro rfl
    rfl

theorem attributeType_of_ne_empty {value : String} (h : value ≠ "") :
    attributeType value = tokenType value := by
  unfold attributeType
  split
  · next hnull => exact absurd (tokenType_eq_null_iff.mp hnull) h
  · rfl

theorem acceptsAttribute_attributeType (value : String) :
    AcceptsAttribute (attributeType value) value := by
  by_cases hempty : value = ""
  · subst hempty
    exact .empty
  · rw [attributeType_of_ne_empty hempty]
    exact .token hempty (acceptsToken_tokenType value)

theorem acceptsScalar_leafType (typing : StringTyping) (s : Scalar) :
    AcceptsScalar typing (leafType typing s) s := by
  cases s with
  | null => exact .null
  | bool b => exact .bool b
  | number x => exact .number (acceptsNumber_numberType x)
  | token t => exact .token (acceptsToken_tokenType t)
  | text t =>
      cases typing with
      | literal => exact .text rfl
      | sniff => exact .sniffed rfl (acceptsToken_tokenType t)

/-! ## Boxing -/

theorem AcceptsNumber.boxed {t : FieldType} {x : Binary64} (h : AcceptsNumber t x) :
    AcceptsNumber t.boxed x := by
  cases h with
  | integer h => exact .boxedInteger h
  | long h => exact .boxedLong h
  | double h => exact .boxedDouble h
  | boxedInteger h => exact .boxedInteger h
  | boxedLong h => exact .boxedLong h
  | boxedDouble h => exact .boxedDouble h

theorem AcceptsToken.boxed {t : FieldType} {token : String} (h : AcceptsToken t token) :
    AcceptsToken t.boxed token := by
  cases h with
  | empty => exact .empty
  | yes => exact .yes
  | no => exact .no
  | number hx h => exact .number hx h.boxed
  | other hempty hyes hno hnumber => exact .other hempty hyes hno hnumber

theorem AcceptsScalar.boxed {typing : StringTyping} {t : FieldType} {s : Scalar}
    (h : AcceptsScalar typing t s) : AcceptsScalar typing t.boxed s := by
  cases h with
  | null => exact .null
  | bool b => exact .bool b
  | number h => exact .number h.boxed
  | text h => exact .text h
  | sniffed h ht => exact .sniffed h ht.boxed
  | token h => exact .token h.boxed

/-- A boxed type accepts what the type accepts. -/
theorem Accepts.boxed {typing : StringTyping} {r : Registry} {t : FieldType} {element : Element}
    (h : Accepts typing r t element) : Accepts typing r t.boxed element := by
  cases h with
  | scalar h => exact .scalar h.boxed
  | bare => exact .bare
  | emptyList hshape => exact .emptyList hshape
  | list hshape hfirst => exact .list hshape hfirst
  | object hshape hfind hnames hchildren hattributes =>
      exact .object hshape hfind hnames hchildren hattributes

/-! ## Containers -/

/-- Only an XML element without attributes and children has no value. -/
theorem eq_bare_of_containerShape_null {origin : Origin} {attributes : List (String × String)}
    {children : List (String × Element)}
    (h : containerShape origin attributes children = .ok .null) :
    origin = .xml ∧ attributes = [] ∧ children = [] := by
  cases origin with
  | xml =>
      simp only [containerShape] at h
      split_ifs at h with hattributes hchildren <;> cases h
      exact ⟨rfl, by simpa using hattributes, by simpa using hchildren⟩
  | jsonArray =>
      simp only [containerShape] at h
      split_ifs at h
      cases h
  | jsonObject =>
      simp only [containerShape] at h
      split_ifs at h
      cases h

/-- The last entries with a name correspond if all entries do, position by position. -/
theorem lastWith_of_forall₂ {α β : Type} {R : String × α → String × β → Prop}
    {xs : List (String × α)} {ys : List (String × β)}
    (h : List.Forall₂ (fun x y => x.1 = y.1 ∧ R x y) xs ys) (k : String) :
    Option.Rel R (Keyed.lastWith Prod.fst xs k) (Keyed.lastWith Prod.fst ys k) := by
  induction h with
  | nil => exact .none
  | @cons x y xs ys hxy _ ih =>
      rw [← List.singleton_append, ← List.singleton_append (l := ys), Keyed.lastWith_append,
        Keyed.lastWith_append]
      -- the last entry is behind the first one, or else it is the first one
      generalize Keyed.lastWith Prod.fst xs k = last at ih ⊢
      generalize Keyed.lastWith Prod.fst ys k = last' at ih ⊢
      cases ih with
      | some hR => exact .some hR
      | none =>
          simp only [Option.none_or, Keyed.lastWith, List.reverse_singleton, List.find?_cons,
            hxy.1, List.find?_nil]
          split
          · exact .some hxy.2
          · exact .none

section Object

variable {typing : StringTyping} {r : Registry} {attributes : List (String × String)}
  {children : List (String × Element)} {entries : List (String × FieldType)}

/-- The last child with a field's name is accepted by the field's type. -/
theorem accepts_last_child
    (h : List.Forall₂ (fun child entry => child.1 = entry.1 ∧ Accepts typing r entry.2 child.2)
      children entries) {field : String × FieldType}
    (hfield : field ∈ (settledFields (attributeEntries attributes ++ entries)).toList)
    {child : String × Element} (hchild : Keyed.lastWith Prod.fst children field.1 = some child) :
    Accepts typing r field.2 child.2 := by
  have hlast := Keyed.mem_settled.mp hfield
  have hrel := lastWith_of_forall₂ h field.1
  rw [Keyed.lastWith_append] at hlast
  rw [hchild] at hrel
  cases hentry : Keyed.lastWith Prod.fst entries field.1 with
  | none =>
      rw [hentry] at hrel
      cases hrel
  | some entry =>
      rw [hentry] at hrel hlast
      obtain rfl := Option.some.inj hlast
      cases hrel with
      | some haccepts => exact haccepts

/-- If no child has a field's name, the last attribute with this name is accepted by the field's
type. -/
theorem accepts_last_attribute
    (h : List.Forall₂ (fun child entry => child.1 = entry.1 ∧ Accepts typing r entry.2 child.2)
      children entries) {field : String × FieldType}
    (hfield : field ∈ (settledFields (attributeEntries attributes ++ entries)).toList)
    (hnone : Keyed.lastWith Prod.fst children field.1 = none) {attr : String × String}
    (hattr : Keyed.lastWith Prod.fst attributes field.1 = some attr) :
    AcceptsAttribute field.2 attr.2 := by
  have hlast := Keyed.mem_settled.mp hfield
  have hrel := lastWith_of_forall₂ h field.1
  rw [hnone] at hrel
  rw [Keyed.lastWith_append] at hlast
  cases hentry : Keyed.lastWith Prod.fst entries field.1 with
  | some entry =>
      rw [hentry] at hrel
      cases hrel
  | none =>
      have hattributes : List.Forall₂
          (fun (x : String × String) (y : String × FieldType) =>
            x.1 = y.1 ∧ AcceptsAttribute y.2 x.2) attributes (attributeEntries attributes) := by
        rw [attributeEntries, List.forall₂_map_right_iff]
        exact List.forall₂_same.mpr fun x _ => ⟨rfl, acceptsAttribute_attributeType x.2⟩
      have hrel' := lastWith_of_forall₂ hattributes field.1
      rw [hentry, Option.none_or] at hlast
      rw [hattr, hlast] at hrel'
      cases hrel' with
      | some haccepts => exact haccepts

/-- The class of an object has the object's names as fields, in the order in which they first
occur. -/
theorem keys_settledFields
    (h : List.Forall₂ (fun child entry => child.1 = entry.1 ∧ Accepts typing r entry.2 child.2)
      children entries) :
    (settledFields (attributeEntries attributes ++ entries)).keys
      = (attributes.map Prod.fst ++ children.map Prod.fst).eraseDups := by
  have hnames : children.map Prod.fst = entries.map Prod.fst := by
    induction h with
    | nil => rfl
    | cons hce _ ih => rw [List.map_cons, List.map_cons, ih, hce.1]
  show (Keyed.settled Prod.fst _).map Prod.fst = _
  rw [Keyed.keys_settled, List.map_append, hnames, names_attributeEntries]

end Object

/-! ## Documents -/

mutual

/-- **What is listed accepts what it was listed for**, as long as each listed class is found under
its name. -/
theorem accepts_listing (typing : StringTyping) (package : String) (r : Registry) :
    ∀ (name : String) (element : Element) (t : FieldType),
      (listing typing package name element).result = .ok t →
      (∀ c ∈ (listing typing package name element).classes, r.find? c.qualifiedName = some c) →
      Accepts typing r t element
  | _, .scalar s, t, h, _ => by
      rw [listing] at h
      cases h
      exact .scalar (acceptsScalar_leafType typing s)
  | name, .container origin attributes children, t, h, hr => by
      rcases listing_container_cases h with
        ⟨hshape, rfl, _⟩ | ⟨hshape, heq⟩ | ⟨entries, hshape, hresult, rfl, hclasses⟩
      · obtain ⟨rfl, rfl, rfl⟩ := eq_bare_of_containerShape_null hshape
        exact .bare
      · rw [heq] at h hr
        exact accepts_listingOfFirst typing package r name origin attributes children hshape t h hr
      · rw [hclasses] at hr
        have hchildren := accepts_listingOfChildren typing package r children entries hresult
          (fun c hc => hr c (List.mem_append_left _ hc))
        -- the class that is found for the reference is the object's own one, which comes last
        have hown := hr _ (List.mem_append_right _ (List.mem_singleton_self _))
        exact .object hshape hown (keys_settledFields hchildren)
          (fun field hfield child => accepts_last_child hchildren hfield)
          (fun field hfield hnone attr => accepts_last_attribute hchildren hfield hnone)

theorem accepts_listingOfFirst (typing : StringTyping) (package : String) (r : Registry)
    (name : String) (origin : Origin) (attributes : List (String × String)) :
    ∀ (children : List (String × Element)),
      containerShape origin attributes children = .ok .list → ∀ t : FieldType,
      (listingOfFirst typing package origin name children).result = .ok t →
      (∀ c ∈ (listingOfFirst typing package origin name children).classes,
        r.find? c.qualifiedName = some c) →
      Accepts typing r t (.container origin attributes children)
  | [], hshape, t, h, _ => by
      rw [listingOfFirst] at h
      cases h
      exact .emptyList hshape
  | (tag, first) :: _, hshape, t, h, hr => by
      obtain ⟨u, hu, rfl⟩ := exists_of_listingOfFirst h
      rw [listingOfFirst] at hr
      have hfirst := accepts_listing typing package r _ first u hu hr
      exact .list hshape hfirst.boxed

theorem accepts_listingOfChildren (typing : StringTyping) (package : String) (r : Registry) :
    ∀ (children : List (String × Element)) (entries : List (String × FieldType)),
      (listingOfChildren typing package children).result = .ok entries →
      (∀ c ∈ (listingOfChildren typing package children).classes,
        r.find? c.qualifiedName = some c) →
      List.Forall₂ (fun child entry => child.1 = entry.1 ∧ Accepts typing r entry.2 child.2)
        children entries
  | [], entries, h, _ => by
      rw [listingOfChildren] at h
      cases h
      exact .nil
  | (field, child) :: others, entries, h, hr => by
      obtain ⟨name, u, rest, _, hchild, hothers, rfl, hclasses⟩ := exists_of_listingOfChildren h
      rw [hclasses] at hr
      refine .cons ⟨rfl, ?_⟩ ?_
      · exact accepts_listing typing package r name child u hchild
          (fun c hc => hr c (List.mem_append_left _ hc))
      · exact accepts_listingOfChildren typing package r others rest hothers
          (fun c hc => hr c (List.mem_append_right _ hc))

end

/-- **A sample conforms to its schema.** If sampled objects that are proposed one name give one
class, the type of a document's root accepts the document, given the classes that are registered
when the whole document has been read. -/
theorem run_accepts {options : Options} {rootName package name : String} {element : Element}
    {s : Schema} (hroot : splitRoot rootName = .ok (package, name))
    (hagree : ClassesAgree options.stringTyping package (sampledObjects name element))
    (hrun : run options rootName element = .ok s) :
    Accepts options.stringTyping s.registry s.root element := by
  obtain ⟨hresult, hregistry⟩ := listing_of_run hroot hrun
  refine accepts_listing options.stringTyping package s.registry name element s.root hresult ?_
  intro c hc
  rw [hregistry]
  exact hagree.find?_eq_some hresult Keyed.empty c hc

/-- An object with two parts of one name, both objects of one class with a large number, around
numbers with and without a fraction and a part without a value. -/
def repeatedPart : Element :=
  .container .xml [] [("a", .container .xml [("k", "2147483647")] []),
    ("b", .scalar (.token "-7")), ("c", .scalar (.token " 1.5 ")), ("d", .scalar (.token "")),
    ("a", .container .xml [("k", "3e9")] [])]

/-- The schema of that object. -/
def repeatedPartSchema : Schema :=
  ⟨.objectRef "p.R", Keyed.ofList [⟨"p.A", Keyed.ofList [("k", .long)]⟩,
    ⟨"p.R", Keyed.ofList
      [("a", .objectRef "p.A"), ("b", .integer), ("c", .double), ("d", .null)]⟩]⟩

theorem run_accepts_repeatedPart :
    run .standard "p.R" repeatedPart = .ok repeatedPartSchema ∧
      Accepts .literal repeatedPartSchema.registry repeatedPartSchema.root repeatedPart := by
  have hroot : splitRoot "p.R" = .ok ("p", "R") := rfl
  have hlong : attributeType "2147483647" = .long := by decide +kernel
  have hlong' : attributeType "3e9" = .long := by decide +kernel
  have hinteger : tokenType "-7" = .integer := by decide +kernel
  have hdouble : tokenType " 1.5 " = .double := by decide +kernel
  have hagree : ClassesAgree .literal "p" (sampledObjects "R" repeatedPart) := by
    have hobjects : sampledObjects "R" repeatedPart
        = [⟨"A", [("k", "2147483647")], []⟩, ⟨"A", [("k", "3e9")], []⟩,
          ⟨"R", [], [("a", .container .xml [("k", "2147483647")] []),
            ("b", .scalar (.token "-7")), ("c", .scalar (.token " 1.5 ")),
            ("d", .scalar (.token "")), ("a", .container .xml [("k", "3e9")] [])]⟩] := rfl
    have hclass : ∀ value, attributeType value = .long →
        SampledObject.class? .literal "p" ⟨"A", [("k", value)], []⟩
          = .ok ⟨"p.A", Keyed.ofList [("k", .long)]⟩ := by
      intro value hvalue
      rw [← hvalue]
      rfl
    -- both numbers are large, so the two parts give one class; only they share a name
    have hfirst := hclass _ hlong
    have hlast := hclass _ hlong'
    rw [hobjects]
    simp [ClassesAgree, hfirst, hlast]
  have hrun : run .standard "p.R" repeatedPart = .ok repeatedPartSchema := by
    have htypes : run .standard "p.R" repeatedPart = .ok ⟨.objectRef "p.R", Keyed.ofList
        [⟨"p.A", Keyed.ofList [("k", attributeType "3e9")]⟩,
          ⟨"p.R", Keyed.ofList [("a", .objectRef "p.A"), ("b", tokenType "-7"),
            ("c", tokenType " 1.5 "), ("d", .null)]⟩]⟩ := rfl
    rw [htypes, hlong', hinteger, hdouble]
    rfl
  exact ⟨hrun, run_accepts hroot hagree hrun⟩

end Specimen.Inference
