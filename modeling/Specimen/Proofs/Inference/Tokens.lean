import Specimen.Proofs.Inference.Agreement
import Specimen.Proofs.Number.Notation

set_option autoImplicit false

/-! # The grammar of character data

Which type character data has, by its text alone (`tokenType_by_grammar`): there are four kinds of
texts, which are nothing, the two truth values, decimal numerals between white space, and all others.
The grammar of numerals is that of `Decimal.IsWritten`.

Parsers for floating-point numbers commonly accept words too, for infinities and for what is no
number (`floatOfText?`). Numerals are what is left of their language when a digit is asked for
(`tokenNumber?_eq_floatOfText?`): each numeral has one, and no word does.
-/

namespace Specimen.Inference

open Specimen.Number Specimen.Schema Specimen.Text
open Specimen.Number.Decimal (IsSignText IsWritten)

/-! ## Words for numbers -/

/-- The words that such parsers accept, in small letters, with the numbers that they stand for. A
sign may stand in front. -/
def floatWords : List (List Char × Binary64) :=
  [("inf".toList, Binary64.infinity false), ("infinity".toList, Binary64.infinity false),
    ("nan".toList, Binary64.nan)]

/-- A word for a number, in any mixture of small and capital letters. -/
def IsFloatWord (word : List Char) : Prop := word.map Char.toLower ∈ floatWords.map Prod.fst

instance (word : List Char) : Decidable (IsFloatWord word) := inferInstanceAs (Decidable (_ ∈ _))

/-- The number that a word behind an optional sign stands for. -/
def floatOfWord? (text : List Char) : Option Binary64 :=
  let (negative, word) := Decimal.takeSign text
  (floatWords.lookup (word.map Char.toLower)).map fun x => { x with negative := negative }

/-- The number that a text stands for where both words and numerals are accepted. -/
def floatOfText? (text : List Char) : Option Binary64 :=
  match floatOfWord? text with
  | some x => some x
  | none => (Decimal.ofText? text).map Decimal.nearest

theorem toLower_of_isDigit {c : Char} (h : c.isDigit = true) : c.toLower = c := by
  simp only [Char.isDigit, Bool.and_eq_true, decide_eq_true_eq] at h
  have hhigh : c.toNat ≤ 57 := h.2
  have hcapital : ¬ (c.val ≥ 'A'.val ∧ c.val ≤ 'Z'.val) := by
    rintro ⟨hlow, -⟩
    have hlow : 65 ≤ c.toNat := hlow
    omega
  exact dif_neg hcapital

/-- There is no digit in a word, nor in a sign. -/
theorem IsFloatWord.not_isDigit_append {negative : Bool} {s word : List Char}
    (hs : IsSignText negative s) (hword : IsFloatWord word) :
    ∀ c ∈ s ++ word, c.isDigit = false := by
  have hletters : ∀ w ∈ floatWords.map Prod.fst, ∀ c ∈ w, c.isDigit = false := by
    simp [floatWords]
  have hsign : ∀ c ∈ s, c.isDigit = false := by
    cases hs <;> simp
  intro c hc
  rcases List.mem_append.mp hc with hc | hc
  · exact hsign c hc
  · by_contra hdigit
    rw [Bool.not_eq_false] at hdigit
    have hmem : c ∈ word.map Char.toLower :=
      List.mem_map.mpr ⟨c, hc, toLower_of_isDigit hdigit⟩
    exact Bool.eq_false_iff.mp (hletters _ hword c hmem) hdigit

theorem floatOfWord?_eq_none {text : List Char} (h : ∃ c ∈ text, c.isDigit = true) :
    floatOfWord? text = none := by
  obtain ⟨c, hc, hdigit⟩ := h
  rcases hsign : Decimal.takeSign text with ⟨negative, word⟩
  obtain ⟨s, hs, rfl⟩ := Decimal.isSignText_of_takeSign hsign
  have hword : ¬ IsFloatWord word := fun hword =>
    Bool.eq_false_iff.mp (hword.not_isDigit_append hs c hc) hdigit
  simp only [floatOfWord?, hsign]
  rw [List.lookup_eq_none_iff.mpr]
  · rfl
  · intro p hp
    rw [bne_iff_ne]
    exact fun heq => hword (List.mem_map.mpr ⟨p, hp, heq.symm⟩)

/-! ## Numerals -/

/-- **Numerals are the texts with a digit that a parser accepts which knows words.** -/
theorem tokenNumber?_eq_floatOfText? (token : String) :
    tokenNumber? token =
      if (trim token.toList).any Char.isDigit then floatOfText? (trim token.toList) else none := by
  unfold tokenNumber?
  generalize trim token.toList = text
  by_cases hdigit : text.any Char.isDigit = true
  · rw [if_pos hdigit, floatOfText?, floatOfWord?_eq_none (List.any_eq_true.mp hdigit)]
  · rw [if_neg hdigit]
    cases hnumeral : Decimal.ofText? text with
    | none => rfl
    | some d =>
        have hwritten := Decimal.ofText?_eq_some_iff.mp hnumeral
        exact absurd (List.any_eq_true.mpr hwritten.exists_isDigit) hdigit

/-- A text is a decimal numeral. -/
def IsNumeral (text : List Char) : Prop := ∃ d : Decimal, d.IsWritten text

theorem isSome_ofText?_iff {text : List Char} :
    (Decimal.ofText? text).isSome = true ↔ IsNumeral text := by
  rw [Option.isSome_iff_exists]
  exact exists_congr fun d => Decimal.ofText?_eq_some_iff

instance (text : List Char) : Decidable (IsNumeral text) := decidable_of_iff _ isSome_ofText?_iff

/-- Digits may be missing on one side of the point only. -/
example : IsNumeral "+.5e1".toList ∧ IsNumeral "5.".toList ∧ ¬ IsNumeral ".".toList := by decide

theorem isSome_tokenNumber?_iff {token : String} :
    (tokenNumber? token).isSome = true ↔ IsNumeral (trim token.toList) := by
  rw [tokenNumber?, Option.isSome_map]
  exact isSome_ofText?_iff

/-- Reasons why a text is no numeral. -/
inductive NoNumeral : List Char → Prop
  /-- No text is left between white space. -/
  | blank : NoNumeral []
  /-- A word for a number, with or without a sign. -/
  | word {negative : Bool} {s w : List Char} (hs : IsSignText negative s) (hw : IsFloatWord w) :
      NoNumeral (s ++ w)
  /-- Some character is none of a numeral: the `x` of a hexadecimal one, a digit of another script,
  a space in between. -/
  | foreign {text : List Char} {c : Char} (hc : c ∈ text) (hdigit : c.isDigit = false)
      (hmark : c ∉ Decimal.marks) : NoNumeral text
  /-- A letter or a sign stands behind the digits. -/
  | ending {text : List Char} {c : Char} (hc : text.getLast? = some c) (hdigit : c.isDigit = false)
      (hpoint : c ≠ '.') : NoNumeral text

theorem NoNumeral.not_isNumeral {text : List Char} (h : NoNumeral text) :
    ¬ IsNumeral text := by
  rintro ⟨d, hd⟩
  cases h with
  | blank =>
      obtain ⟨c, hc, -⟩ := hd.exists_isDigit
      cases hc
  | word hs hw =>
      obtain ⟨c, hc, hdigit⟩ := hd.exists_isDigit
      exact Bool.eq_false_iff.mp (hw.not_isDigit_append hs c hc) hdigit
  | @foreign _ c hc hdigit hmark =>
      exact (hd.isDigit_or_mem_marks c hc).elim (Bool.eq_false_iff.mp hdigit) hmark
  | @ending _ c hc hdigit hpoint =>
      obtain ⟨c', hc', hlast⟩ := hd.getLast?
      obtain rfl : c = c' := Option.some.inj (hc.symm.trans hc')
      exact hlast.elim (Bool.eq_false_iff.mp hdigit) hpoint

/-! ## Types -/

/-- The types of numbers. -/
def numberTypes : List FieldType := [.integer, .long, .double]

theorem numberType_mem_numberTypes (x : Binary64) : numberType x ∈ numberTypes := by
  unfold numberType
  split_ifs <;> simp [numberTypes]

theorem tokenType_of_isNumeral {token : String} (h : IsNumeral (trim token.toList)) :
    tokenType token ∈ numberTypes := by
  obtain ⟨x, hx⟩ := Option.isSome_iff_exists.mp (isSome_tokenNumber?_iff.mpr h)
  rw [tokenType_of_tokenNumber? hx]
  exact numberType_mem_numberTypes x

theorem tokenType_of_other {token : String} (hempty : token ≠ "")
    (hword : ¬ (token = "true" ∨ token = "false")) (hnumeral : ¬ IsNumeral (trim token.toList)) :
    tokenType token = .string := by
  rw [← isSome_tokenNumber?_iff, Bool.not_eq_true, Option.isSome_eq_false_iff,
    Option.isNone_iff_eq_none] at hnumeral
  rw [tokenType, if_neg (by simpa using hempty), if_neg hword, hnumeral]

/-- There are four kinds of texts, each with types of its own. -/
theorem tokenType_cases (token : String) :
    (token = "" ∧ tokenType token = .null) ∨
      ((token = "true" ∨ token = "false") ∧ tokenType token = .boolean) ∨
      (IsNumeral (trim token.toList) ∧ tokenType token ∈ numberTypes) ∨
      ((token ≠ "" ∧ ¬ (token = "true" ∨ token = "false") ∧ ¬ IsNumeral (trim token.toList)) ∧
        tokenType token = .string) := by
  by_cases hempty : token = ""
  · exact Or.inl ⟨hempty, tokenType_eq_null_iff.mpr hempty⟩
  refine Or.inr ?_
  by_cases hword : token = "true" ∨ token = "false"
  · refine Or.inl ⟨hword, ?_⟩
    rcases hword with rfl | rfl <;> rfl
  refine Or.inr ?_
  by_cases hnumeral : IsNumeral (trim token.toList)
  · exact Or.inl ⟨hnumeral, tokenType_of_isNumeral hnumeral⟩
  · exact Or.inr ⟨⟨hempty, hword, hnumeral⟩, tokenType_of_other hempty hword hnumeral⟩

theorem tokenType_eq_boolean_iff {token : String} :
    tokenType token = .boolean ↔ token = "true" ∨ token = "false" := by
  constructor
  · intro h
    rcases tokenType_cases token with ⟨-, h'⟩ | ⟨hword, -⟩ | ⟨-, h'⟩ | ⟨-, h'⟩
    · simp [h'] at h
    · exact hword
    · simp [h, numberTypes] at h'
    · simp [h'] at h
  · rintro (rfl | rfl) <;> rfl

theorem tokenType_mem_numberTypes_iff {token : String} :
    tokenType token ∈ numberTypes ↔ IsNumeral (trim token.toList) := by
  constructor
  · intro h
    rcases tokenType_cases token with ⟨-, h'⟩ | ⟨-, h'⟩ | ⟨hnumeral, -⟩ | ⟨-, h'⟩
    · simp [h', numberTypes] at h
    · simp [h', numberTypes] at h
    · exact hnumeral
    · simp [h', numberTypes] at h
  · exact tokenType_of_isNumeral

theorem tokenType_eq_string_iff {token : String} :
    tokenType token = .string ↔
      token ≠ "" ∧ ¬ (token = "true" ∨ token = "false") ∧ ¬ IsNumeral (trim token.toList) := by
  constructor
  · intro h
    rcases tokenType_cases token with ⟨-, h'⟩ | ⟨-, h'⟩ | ⟨-, h'⟩ | ⟨hother, -⟩
    · simp [h'] at h
    · simp [h'] at h
    · simp [h, numberTypes] at h'
    · exact hother
  · rintro ⟨hempty, hword, hnumeral⟩
    exact tokenType_of_other hempty hword hnumeral

/-- An attribute is there even if its value is empty. -/
theorem attributeType_eq_ite (value : String) :
    attributeType value = if value = "" then .string else tokenType value := by
  by_cases hempty : value = ""
  · subst hempty
    rfl
  · rw [attributeType_of_ne_empty hempty, if_neg hempty]

/-- **The type of character data is decided by its grammar.** Only empty data has no value, only the
two truth values are `boolean`, only numerals between white space have the type of a number, and all
else is `string`. The value of an attribute is typed alike, but
an empty one is `string` too. -/
theorem tokenType_by_grammar (token : String) :
    (tokenType token = .null ↔ token = "") ∧
      (tokenType token = .boolean ↔ token = "true" ∨ token = "false") ∧
      (tokenType token ∈ numberTypes ↔ IsNumeral (trim token.toList)) ∧
      (tokenType token = .string ↔
        token ≠ "" ∧ ¬ (token = "true" ∨ token = "false") ∧ ¬ IsNumeral (trim token.toList)) ∧
      (NoNumeral (trim token.toList) → token ≠ "" → ¬ (token = "true" ∨ token = "false") →
        tokenType token = .string) ∧
      attributeType token = if token = "" then .string else tokenType token := by
  refine ⟨tokenType_eq_null_iff, tokenType_eq_boolean_iff, tokenType_mem_numberTypes_iff,
    tokenType_eq_string_iff, ?_, attributeType_eq_ite token⟩
  intro hreason hempty hword
  exact tokenType_of_other hempty hword hreason.not_isNumeral

theorem tokenType_by_grammar_minusInfinity :
    NoNumeral (trim " -Infinity ".toList) ∧ tokenType " -Infinity " = .string := by
  have hreason : NoNumeral (trim " -Infinity ".toList) :=
    .word (w := "Infinity".toList) .minus (by decide)
  exact ⟨hreason, (tokenType_by_grammar " -Infinity ").2.2.2.2.1 hreason (by decide) (by decide)⟩

end Specimen.Inference
