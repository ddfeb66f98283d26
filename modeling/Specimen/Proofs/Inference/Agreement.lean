import Specimen.Proofs.Inference.Conformance
import Specimen.Proofs.Json.Literal
import Specimen.Proofs.Schema.Representative

set_option autoImplicit false

/-! # Number literals at the leaves of documents

One literal can stand at four kinds of leaves: as a JSON number, as a JSON string whose content
counts, as the text of an XML element and as the value of an XML attribute. The last three are
typed by the number nearest to the literal. A JSON number is evaluated in another way, which need
not give the nearest number, but `infer_numberLiteral` says that the type is the same for literals
of integers and for short ones (`Decimal.IsWholeOrShort`): the number of a short literal is the
nearest, and the numbers of long integers are so large that only their sign counts.
`generate_fractionalTie` is a literal of another type in each way.
-/

namespace Specimen.Inference

open Specimen.Document Specimen.Number Specimen.Schema Specimen.Text

/-! ## Types of numbers -/

theorem numberType_of_rank_eq_zero {x : Binary64} (h : x.rank = 0) : numberType x = .integer := by
  have hunits : x.units = 0 := Binary64.units_of_rank_eq_zero h
  have hnan : x.isNaN = false := by simp [Binary64.isNaN, h]
  have hinfinite : x.isInfinite = false := by simp [Binary64.isInfinite, h, Binary64.infinityRank]
  have hwhole : x.isWhole = true := by simp [Binary64.isWhole, hunits]
  have hthreshold : ¬ longThreshold * Binary64.one ≤ 0 :=
    Nat.not_le.mpr (Nat.mul_pos (by decide) Binary64.one_pos)
  simp [numberType, hnan, hinfinite, hwhole, hunits, hthreshold]

/-- Numbers from `2⁵³` on are typed by their sign. -/
theorem numberType_of_largeRank_le {x : Binary64} (h : largeRank ≤ x.rank)
    (h' : x.rank ≤ Binary64.infinityRank) :
    numberType x = if x.negative then .integer else .long := by
  obtain ⟨hwhole, hunits⟩ := Binary64.of_largeRank_le h
  have hnan : x.isNaN = false := by simpa [Binary64.isNaN] using h'
  have hlong : longThreshold * Binary64.one ≤ x.units :=
    le_trans (Nat.mul_le_mul_right _ (by decide)) hunits
  unfold numberType
  rw [hnan, hwhole, if_neg Bool.false_ne_true]
  cases x.negative <;> simp [hlong]

/-- **A numeral that is an integer or short has the type of the nearest number.** -/
theorem numberType_toBinary64 {n : Json.Numeral} {rest : List Char} {x : Json.Number}
    (hn : n.IsDecimal) (hx : n.toNumber rest = .ok x) (h : n.toDecimal.IsWholeOrShort) :
    numberType x.toBinary64 = numberType n.toDecimal.nearest := by
  unfold Json.Numeral.toNumber at hx
  split at hx
  · next i hi =>
      cases hx
      exact congrArg numberType (Json.Numeral.ofInt_of_integer? hi)
  · obtain ⟨y, hy, rfl⟩ := exists_of_map_eq_ok hx
    have hsign : y.negative = n.toDecimal.nearest.negative :=
      (Json.Numeral.float?_cases hy).1.trans (Decimal.negative_nearest n.toDecimal).symm
    show numberType y = _
    rcases h.cases with hzero | ⟨hdigits, hshort⟩ | hlarge
    · rw [numberType_of_rank_eq_zero (Json.Numeral.rank_float_of_digits_eq_zero hn hy hzero),
        numberType_of_rank_eq_zero (Decimal.rank_nearest_of_digits_eq_zero hzero)]
    · exact congrArg numberType
        (Binary64.ext hsign (Json.Numeral.rank_float_of_isShort hn hy hdigits hshort))
    · obtain ⟨hlow, hhigh⟩ := Json.Numeral.largeRank_le_rank_float hn hy hlarge
      rw [numberType_of_largeRank_le hlow hhigh, numberType_of_largeRank_le
        (Decimal.largeRank_le_rank_nearest hlarge) (Decimal.rank_nearest_le _), hsign]

/-! ## Documents -/

/-- Character data that denotes a number has the number's type. -/
theorem tokenType_of_tokenNumber? {token : String} {x : Binary64}
    (h : tokenNumber? token = some x) : tokenType token = numberType x := by
  have hne : ∀ word, tokenNumber? word = none → token ≠ word := by
    rintro _ hnone rfl
    rw [hnone] at h
    cases h
  have hempty : token.isEmpty = false := by
    simpa using hne "" (by decide)
  have hword : ¬ (token = "true" ∨ token = "false") :=
    not_or.mpr ⟨hne "true" (by decide), hne "false" (by decide)⟩
  rw [tokenType, hempty, if_neg Bool.false_ne_true, if_neg hword, h]

variable {options : Options} {rootName package name : String}

/-- The root's type in the schema of a leaf is the leaf's type, with or without merging. -/
theorem root_infer_scalar (hroot : splitRoot rootName = .ok (package, name)) (s : Scalar) :
    (infer options rootName (.scalar s)).map Schema.root
      = .ok (leafType options.stringTyping s) := by
  have hrun : run options rootName (.scalar s)
      = .ok ⟨leafType options.stringTyping s, Keyed.empty⟩ := by
    simp only [run, hroot, build]
    rfl
  have hmerge : Schema.merge ⟨leafType options.stringTyping s, Keyed.empty⟩
      = ⟨leafType options.stringTyping s, Keyed.empty⟩ :=
    mergeFrom_of_eq_nil rfl _
  unfold infer
  rw [hrun]
  cases options.merges with
  | true => exact congrArg (fun schema => Except.ok (Schema.root schema)) hmerge
  | false => rfl

/-- A JSON document that is a number has the number's type. -/
theorem root_generate_number (hroot : splitRoot rootName = .ok (package, name)) {text : String}
    {x : Json.Number} (hread : Json.read text = .ok (.number x)) :
    (generate options rootName text .json).map Schema.root = .ok (numberType x.toBinary64) := by
  have hdocument : Document.read text .json = .ok (.scalar (.number x.toBinary64)) := by
    simp only [Document.read, readJson, hread]
    rfl
  rw [generate, hdocument]
  exact root_infer_scalar hroot (.number x.toBinary64)

/-- **A number literal is typed alike wherever it is written**: as character data always by the
nearest number, and as a JSON number too if it is an integer or short. -/
theorem infer_numberLiteral {text : String} {x : Json.Number}
    (hroot : splitRoot rootName = .ok (package, name)) (hread : Json.read text = .ok (.number x)) :
    ∃ d, Decimal.ofText? (trim text.toList) = some d ∧
      (infer options rootName (.scalar (.token text))).map Schema.root
        = .ok (numberType d.nearest) ∧
      (infer ⟨.sniff, options.merges⟩ rootName (.scalar (.text text))).map Schema.root
        = .ok (numberType d.nearest) ∧
      attributeType text = numberType d.nearest ∧
      (d.IsWholeOrShort →
        (generate options rootName text .json).map Schema.root = .ok (numberType d.nearest)) := by
  obtain ⟨n, rest, hn, hx, htext⟩ := Json.exists_numeral_of_read hread
  have hnumber : tokenNumber? text = some n.toDecimal.nearest := by
    rw [tokenNumber?, htext]
    rfl
  have htoken := tokenType_of_tokenNumber? hnumber
  have hempty : text ≠ "" := by
    rintro rfl
    cases htext
  refine ⟨n.toDecimal, htext, ?_, ?_, ?_, fun hd => ?_⟩
  · exact (root_infer_scalar hroot (.token text)).trans (congrArg Except.ok htoken)
  · exact (root_infer_scalar hroot (.text text)).trans (congrArg Except.ok htoken)
  · rw [attributeType_of_ne_empty hempty, htoken]
  · rw [root_generate_number hroot hread, numberType_toBinary64 hn hx hd]

theorem infer_numberLiteral_sevenTens :
    ∃ x, splitRoot "p.Root" = .ok ("p", "Root") ∧ Json.read "7.50e1" = .ok (.number x) ∧
      (infer Options.standard "p.Root" (.scalar (.token "7.50e1"))).map Schema.root
        = .ok .integer ∧
      (generate Options.standard "p.Root" "7.50e1" .json).map Schema.root = .ok .integer := by
  have hx := Json.Numeral.toNumber_of_neg (n := ⟨false, ['7'], ['5', '0'], some (false, ['1'])⟩)
    rfl rfl (by decide) (by decide) []
  have hread : Json.read "7.50e1" = _ := Json.read_of_readNumeral rfl rfl rfl hx
  obtain ⟨d, hd, htoken, -, -, hjson⟩ :=
    @infer_numberLiteral Options.standard "p.Root" "p" "Root" "7.50e1" _ rfl hread
  obtain rfl : d = ⟨false, 750, -1⟩ := (Option.some.inj hd).symm
  have htype : numberType (Decimal.nearest ⟨false, 750, -1⟩) = .integer := by decide +kernel
  rw [htype] at htoken hjson
  exact ⟨_, rfl, hread, htoken, hjson (by decide)⟩

/-- **A literal in the middle between two numbers**: read digit by digit, `36028797018963980` goes
to a larger number first and a tenth of that is no integer, but the nearest number is one. -/
theorem generate_fractionalTie :
    (generate Options.standard "p.Root" "3602879701896398.0" .json).map Schema.root
        = .ok .double ∧
      (infer Options.standard "p.Root" (.scalar (.token "3602879701896398.0"))).map Schema.root
        = .ok .long ∧
      (infer ⟨.sniff, false⟩ "p.Root" (.scalar (.text "3602879701896398.0"))).map Schema.root
        = .ok .long ∧
      attributeType "3602879701896398.0" = .long := by
  have htoken : tokenType "3602879701896398.0" = .long := by decide +kernel
  have hx := Json.Numeral.toNumber_of_neg
    (n := ⟨false, "3602879701896398".toList, ['0'], none⟩) rfl rfl (by decide +kernel)
    (by decide +kernel) []
  have hread : Json.read "3602879701896398.0" = _ :=
    Json.read_of_readNumeral rfl rfl rfl hx
  refine ⟨?_, ?_, ?_, ?_⟩
  · rw [root_generate_number rfl hread]
    refine congrArg Except.ok ?_
    decide +kernel
  · exact (root_infer_scalar rfl (.token _)).trans (congrArg Except.ok htoken)
  · exact (root_infer_scalar rfl (.text _)).trans (congrArg Except.ok htoken)
  · rw [attributeType_of_ne_empty (by decide), htoken]

end Specimen.Inference
