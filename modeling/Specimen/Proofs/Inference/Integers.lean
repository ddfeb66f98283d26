import Specimen.Proofs.Inference.Tokens
import Specimen.Proofs.Json.Rereading

set_option autoImplicit false

/-! # Integers are typed by their exact value

A number is typed by its binary64 number, which may differ from what was written. For integers this
makes no difference (`numberType_ofInt`): below `2⁵³` they are numbers of the format, and from there
on all numbers of the format are integers or infinite, so that only the sign counts. So a numeral
whose value is an integer never is `double`, however it is written (`tokenType_of_integral`).

The numbers of JSON documents take other ways, which need not lead to the nearest number. An integer
literal is typed by its value all the same, wherever it stands (`generate_integerLiteral`).
-/

namespace Specimen.Inference

open Specimen.Document Specimen.Number Specimen.Schema Specimen.Text
open Specimen.Json (IsDigits NoLeadingZero Place signText)

/-! ## Integers that are rounded -/

/-- **Rounding does not change the type of an integer.** -/
theorem numberType_ofInt (n : Int) : numberType (Binary64.ofInt n) = integerType n := by
  rcases lt_or_ge n.natAbs (2 ^ 53) with hsmall | hlarge
  · exact numberType_of_isInteger (Binary64.isInteger_ofInt hsmall)
  · have hrank : largeRank ≤ (Binary64.ofInt n).rank := Binary64.largeRank_le_ofNat hlarge
    rw [numberType_of_largeRank_le hrank (nearestRank_le_infinityRank _ _), integerType]
    -- the number may be infinite, but it has the sign of the integer
    show (if decide (n < 0) = true then FieldType.integer else .long) = _
    by_cases hn : n < 0
    · rw [if_pos (decide_eq_true hn), if_neg (by omega)]
    · rw [if_neg (by simpa using hn), if_pos (by omega)]

theorem numberType_nearest_of_value_eq {d : Decimal} {n : Int} (h : d.value = n) :
    numberType d.nearest = integerType n := by
  by_cases hn : n = 0
  · subst hn
    have hdigits := Decimal.digits_eq_zero_of_value_eq h
    exact numberType_of_rank_eq_zero (Decimal.rank_nearest_of_digits_eq_zero hdigits)
  · rw [Decimal.nearest_of_value_eq h hn]
    exact numberType_ofInt n

/-! ## Character data -/

theorem tokenType_of_isWritten {token : String} {d : Decimal}
    (h : d.IsWritten (trim token.toList)) : tokenType token = numberType d.nearest := by
  refine tokenType_of_tokenNumber? ?_
  rw [tokenNumber?, Decimal.ofText?_eq_some_iff.mpr h]
  rfl

/-- **A numeral whose value is an integer is typed by this integer**, with any fraction and exponent
and whatever its size: `long` from `2³¹ - 1` on and `integer` below. So only a numeral whose value
is no integer can be `double`. -/
theorem tokenType_of_integral (token : String) :
    (∀ (d : Decimal) (n : Int), d.IsWritten (trim token.toList) → d.value = n →
      tokenType token = if 2147483647 ≤ n then .long else .integer) ∧
      (tokenType token = .double →
        ∃ d : Decimal, d.IsWritten (trim token.toList) ∧ ∀ n : Int, d.value ≠ n) := by
  have hintegral : ∀ (d : Decimal) (n : Int), d.IsWritten (trim token.toList) → d.value = n →
      tokenType token = integerType n := by
    intro d n hd hn
    rw [tokenType_of_isWritten hd, numberType_nearest_of_value_eq hn]
  refine ⟨hintegral, fun hdouble => ?_⟩
  obtain ⟨d, hd⟩ := tokenType_mem_numberTypes_iff.mp (by rw [hdouble]; decide)
  refine ⟨d, hd, fun n hn => ?_⟩
  have htype := hintegral d n hd hn
  rw [hdouble, integerType] at htype
  split_ifs at htype

/-- The type of an integer beyond the range of the format, written with a fraction. -/
theorem tokenType_of_integral_beyondRange :
    (⟨true, 125, 399⟩ : Decimal).IsWritten (trim " -1.25e401".toList) ∧
      (⟨true, 125, 399⟩ : Decimal).value = (-125 * 10 ^ 399 : Int) ∧
      tokenType " -1.25e401" = .integer := by
  have hwritten : (⟨true, 125, 399⟩ : Decimal).IsWritten (trim " -1.25e401".toList) :=
    Decimal.ofText?_eq_some_iff.mp (by decide)
  have hvalue : (⟨true, 125, 399⟩ : Decimal).value = (-125 * 10 ^ 399 : Int) :=
    Decimal.value_eq_intCast_iff.mpr (by decide +kernel)
  refine ⟨hwritten, hvalue, ?_⟩
  rw [(tokenType_of_integral " -1.25e401").1 _ _ hwritten hvalue]
  decide +kernel

/-! ## Integer literals -/

/-- The text of an integer literal, with its value: a minus sign or none, and digits of which only
a single one may begin with zero. -/
inductive IsIntegerLiteral : Int → List Char → Prop
  | digits (negative : Bool) {ds : List Char} (hds : IsDigits ds) (hlead : NoLeadingZero ds) :
      IsIntegerLiteral (Decimal.signed negative (Decimal.natOfDigits ds)) (signText negative ++ ds)

/-- An integer literal is the text of a numeral without decimal places. -/
theorem IsIntegerLiteral.exists_numeral {n : Int} {literal : List Char}
    (h : IsIntegerLiteral n literal) :
    ∃ numeral : Json.Numeral, numeral.IsLiteral literal ∧ NoLeadingZero numeral.whole ∧
      numeral.toDecimal.exponent = 0 ∧ numeral.toDecimal.value = n := by
  cases h with
  | @digits negative ds hds hlead =>
      have hunsigned : (⟨negative, ds, [], none⟩ : Json.Numeral).IsUnsigned ds :=
        ⟨hds, [], [], .none, .none, by simp⟩
      refine ⟨_, Json.Numeral.isLiteral_of_isUnsigned hunsigned, hlead, rfl, ?_⟩
      show (Decimal.signed negative (Decimal.natOfDigits (ds ++ [])) : ℚ) * 10 ^ (0 : Int) = _
      rw [List.append_nil, zpow_zero, mul_one]

/-- **An integer literal is out of range, or it is a number with the type of its value**, and it is
so wherever it stands. -/
theorem IsIntegerLiteral.read_cases {n : Int} {literal : List Char}
    (h : IsIntegerLiteral n literal) :
    (∀ p : Place, ∃ f, p.read literal = .error f ∧ f.cause = .numberOutOfRange) ∨
      ∃ x : Json.Number, numberType x.toBinary64 = integerType n ∧
        ∀ p : Place, p.read literal = .ok (.number x, p.rest) := by
  obtain ⟨numeral, hliteral, hlead, hexponent, hvalue⟩ := h.exists_numeral
  rcases numeral.toNumber_total with ⟨x, hx⟩ | hnone
  · refine Or.inr ⟨x, ?_, fun p => ?_⟩
    · rw [numberType_toBinary64 hliteral.isDecimal (hx []) (Or.inr (Or.inl hexponent.ge)),
        numberType_nearest_of_value_eq hvalue]
    · rw [p.read_literal hliteral hlead, hx]
      rfl
  · refine Or.inl fun p => ?_
    obtain ⟨f, hf, hcause⟩ := hnone p.rest
    refine ⟨f, ?_, hcause⟩
    rw [p.read_literal hliteral hlead, hf]
    rfl

/-! ## Fields and lists -/

section Object

variable {typing : StringTyping} {package name : String} {children : List (String × Element)}
  {field : String} {s : Scalar}

/-- The last child with a name is a leaf: the last entry with the name has the leaf's type. -/
theorem lastWith_of_listingOfChildren {entries : List (String × FieldType)}
    (h : (listingOfChildren typing package children).result = .ok entries)
    (hlast : Keyed.lastWith Prod.fst children field = some (field, .scalar s)) :
    Keyed.lastWith Prod.fst entries field = some (field, leafType typing s) := by
  have hrel := lastWith_of_forall₂ (forall₂_of_listingOfChildren h) field
  rw [hlast] at hrel
  generalize hentry : Keyed.lastWith Prod.fst entries field = last at hrel ⊢
  cases hrel with
  | @some _ entry hleaf =>
      obtain ⟨_, hresult⟩ := hleaf
      obtain ⟨_, rfl⟩ := Keyed.of_lastWith_eq_some hentry
      rw [listing] at hresult
      rw [Except.ok.inj hresult]

/-- The class that is registered for an object has the type of the leaf as the type of the field. -/
theorem find?_build_object {origin : Origin} {attributes : List (String × String)} {u : FieldType}
    {r r' : Registry} (hshape : containerShape origin attributes children = .ok .object)
    (hbuild : build typing package name (.container origin attributes children) r = (.ok u, r'))
    (hlast : Keyed.lastWith Prod.fst children field = some (field, .scalar s)) :
    ∃ c, r'.find? (qualify package name) = some c ∧
      c.fields.find? field = some (field, leafType typing s) := by
  rw [build_eq_listing] at hbuild
  obtain ⟨hresult, rfl⟩ := Prod.mk.inj hbuild
  rcases listing_container_cases hresult with
    ⟨hnull, _⟩ | ⟨hlist, _⟩ | ⟨entries, _, hentries, _, hclasses⟩
  · rw [hshape] at hnull
    cases hnull
  · rw [hshape] at hlist
    cases hlist
  · -- the object's own class is registered last
    refine ⟨⟨qualify package name, settledFields (attributeEntries attributes ++ entries)⟩, ?_, ?_⟩
    · rw [hclasses, List.foldl_append]
      exact Keyed.find?_insert_self _ _
    · show (settledFields _).find? field = _
      rw [find?_settledFields, Keyed.lastWith_append, lastWith_of_listingOfChildren hentries hlast]
      rfl

end Object

theorem lastWith_ofMembers (members : List (String × Json.Value)) (field : String) :
    Keyed.lastWith Prod.fst (Element.ofMembers members) field
      = (Keyed.lastWith Prod.fst members field).map fun m => (m.1, Element.ofJson m.2) := by
  have hmap : Element.ofMembers members = members.map fun m => (m.1, Element.ofJson m.2) := by
    induction members with
    | nil => rfl
    | cons m ms ih => rw [Element.ofMembers, ih, List.map_cons]
  rw [hmap, Keyed.lastWith, ← List.map_reverse, List.find?_map]
  rfl

/-- The types that a JSON number gives to the fields of objects and to lists. -/
structure GivesType (x : Json.Number) (t : FieldType) : Prop where
  /-- An object whose last member with a name is the number: the field of its class. -/
  field : ∀ {typing : StringTyping} {package name : String} {members : List (String × Json.Value)}
    {u : FieldType} {r r' : Registry},
    build typing package name (Element.ofJson (.object members)) r = (.ok u, r') →
    ∀ {field : String}, Keyed.lastWith Prod.fst members field = some (field, .number x) →
    ∃ c, r'.find? (qualify package name) = some c ∧ c.fields.find? field = some (field, t)
  /-- An array whose first element is the number. -/
  list : ∀ (typing : StringTyping) (package name : String) (items : List Json.Value) (r : Registry),
    build typing package name (Element.ofJson (.array (.number x :: items))) r
      = (.ok (.listOf t.boxed), r)

theorem givesType_numberType (x : Json.Number) : GivesType x (numberType x.toBinary64) where
  field := by
    intro typing package name members u r r' hbuild field hlast
    have hchild : Keyed.lastWith Prod.fst (Element.ofMembers members) field
        = some (field, .scalar (.number x.toBinary64)) := by
      rw [lastWith_ofMembers, hlast]
      rfl
    rw [Element.ofJson] at hbuild
    exact find?_build_object rfl hbuild hchild
  list typing package name items r := by
    rw [build_eq_listing]
    rfl

/-- **An integer literal is typed by its value, wherever it stands.** It may be out of range for the
reader. Otherwise the document that is the literal has this type; and the literal is one and the same
number at all places in documents, which gives the type to the field of an object and, boxed, to the
list of an array. -/
theorem generate_integerLiteral {options : Options} {rootName package name : String}
    (hroot : splitRoot rootName = .ok (package, name)) {n : Int} {literal : List Char}
    (h : IsIntegerLiteral n literal) :
    ((∃ fault, generate options rootName (String.ofList literal) .json = .error (.json fault) ∧
          fault.cause = .numberOutOfRange) ∧
        ∀ p : Place, ∃ f, p.read literal = .error f ∧ f.cause = .numberOutOfRange) ∨
      ((generate options rootName (String.ofList literal) .json).map Schema.root
          = .ok (if 2147483647 ≤ n then .long else .integer) ∧
        ∃ x, (∀ p : Place, p.read literal = .ok (.number x, p.rest)) ∧
          GivesType x (if 2147483647 ≤ n then .long else .integer)) := by
  have hdocument := Json.read_eq_finish literal
  rcases h.read_cases with hnone | ⟨x, htype, hx⟩
  · obtain ⟨f, hf, hcause⟩ := hnone .document
    rw [hf] at hdocument
    refine Or.inl ⟨⟨⟨f.cause, some f.path, f.positionIn literal⟩, ?_, hcause⟩, hnone⟩
    rw [generate, Document.read, readJson, hdocument]
    rfl
  · rw [hx .document] at hdocument
    have hgives : GivesType x (integerType n) := htype ▸ givesType_numberType x
    refine Or.inr ⟨?_, x, hx, hgives⟩
    rw [root_generate_number hroot hdocument, htype]
    rfl

/-- The largest integer of 64 bits without a sign, which is rounded up. -/
theorem generate_integerLiteral_largestUnsigned :
    splitRoot "p.Root" = .ok ("p", "Root") ∧
      IsIntegerLiteral 18446744073709551615 "18446744073709551615".toList ∧
      (generate Options.standard "p.Root" "18446744073709551615" .json).map Schema.root
        = .ok .long := by
  have hliteral : IsIntegerLiteral 18446744073709551615 "18446744073709551615".toList :=
    @IsIntegerLiteral.digits false "18446744073709551615".toList
      ⟨by decide, List.all_eq_true.mp (by decide)⟩ fun hzero => absurd hzero (by decide)
  have hnumber : (⟨false, "18446744073709551615".toList, [], none⟩ : Json.Numeral).toNumber []
      = .ok (.integer 18446744073709551615) := rfl
  have hread : Json.read "18446744073709551615" = _ :=
    Json.read_of_readNumeral rfl rfl rfl hnumber
  have hsome := @root_generate_number Options.standard "p.Root" "p" "Root" rfl _ _ hread
  refine ⟨rfl, hliteral, ?_⟩
  rcases @generate_integerLiteral Options.standard "p.Root" "p" "Root" rfl _ _ hliteral
    with ⟨⟨fault, hfault, _⟩, _⟩ | ⟨htype, _⟩
  · rw [String.ofList_toList] at hfault
    rw [hfault] at hsome
    cases hsome
  · exact htype

end Specimen.Inference
