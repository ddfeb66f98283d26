import Mathlib.Data.List.TakeWhile
import Specimen.Json.Writer
import Specimen.Proofs.Json.Literal
import Specimen.Proofs.Number.Shortest

set_option autoImplicit false

/-! # Written numbers

The text of a number is a number literal that denotes the number. Integers are written by their
digits (`exists_literal_intText`). Other numbers are written in one of four ways, which put the
point in different places and make up for it by zeros or an exponent, so that all have one value
(`exists_writes_magnitudeText`). This is the value of the number's shortest numeral, and the number
is the nearest to it (`exists_writes_floatText`).

That a literal denotes a number does not mean that the JSON reader gives this number for it.
-/

namespace Specimen.Json

open Specimen.Number

/-! ## Digits -/

theorem natOfDigits_eq (ds : List Char) : Decimal.natOfDigits ds = Nat.ofDigitChars 10 ds 0 := by
  simp only [Nat.ofDigitChars_eq_foldl, Nat.mul_comm 10]
  rfl

theorem natOfDigits_append_zeros (ds : List Char) (k : Nat) :
    Decimal.natOfDigits (ds ++ List.replicate k '0') = Decimal.natOfDigits ds * 10 ^ k := by
  rw [natOfDigits_eq, natOfDigits_eq, Nat.ofDigitChars_append, Nat.ofDigitChars_replicate_zero,
    Nat.mul_comm]

theorem natOfDigits_zeros_append (k : Nat) (ds : List Char) :
    Decimal.natOfDigits (List.replicate k '0' ++ ds) = Decimal.natOfDigits ds := by
  rw [natOfDigits_eq, natOfDigits_eq, Nat.ofDigitChars_append, Nat.ofDigitChars_replicate_zero,
    Nat.mul_zero]

theorem natOfDigits_natText (n : Nat) : Decimal.natOfDigits (natText n) = n := by
  rw [natOfDigits_eq, natText, Nat.ofDigitChars_ten_toDigits]

theorem isDigits_natText (n : Nat) : IsDigits (natText n) :=
  ⟨Nat.toDigits_ne_nil, fun _ hc => Nat.isDigit_of_mem_toDigits (by decide) (by decide) hc⟩

/-- A number other than zero has no leading zero. -/
theorem head?_natText {n : Nat} (hn : n ≠ 0) : (natText n).head? ≠ some '0' := by
  induction n using Nat.strongRecOn with
  | ind n ih =>
      unfold natText
      by_cases hsmall : n < 10
      · rw [Nat.toDigits_of_lt_base hsmall]
        simpa using hn
      · -- the first digit is that of a tenth of the number
        rw [Nat.toDigits_of_base_le (by decide) (by omega), List.head?_append,
          Option.or_of_isSome (List.isSome_head?.mpr Nat.toDigits_ne_nil)]
        exact ih (n / 10) (by omega) (by omega)

/-- Digits without the zeros at their end, and how many zeros these are. -/
theorem exists_significant (ds : List Char) :
    ∃ k, ds = (ds.reverse.dropWhile (· == '0')).reverse ++ List.replicate k '0' := by
  refine ⟨(ds.reverse.takeWhile (· == '0')).length, ?_⟩
  have hzeros : ds.reverse.takeWhile (· == '0')
      = List.replicate (ds.reverse.takeWhile (· == '0')).length '0' :=
    List.eq_replicate_iff.mpr ⟨rfl, fun c hc => by simpa using List.mem_takeWhile_imp hc⟩
  have hsplit := List.takeWhile_append_dropWhile (p := (· == '0')) (l := ds.reverse)
  rw [hzeros] at hsplit
  have hreverse := congrArg List.reverse hsplit
  rw [List.reverse_append, List.reverse_replicate, List.reverse_reverse] at hreverse
  exact hreverse.symm

/-- What is left of a number's digits without zeros at their end. -/
theorem significant_of_natText {n k : Nat} {ds : List Char} (hn : n ≠ 0)
    (h : natText n = ds ++ List.replicate k '0') :
    IsDigits ds ∧ ds.head? ≠ some '0' ∧ n = Decimal.natOfDigits ds * 10 ^ k := by
  have hvalue : n = Decimal.natOfDigits ds * 10 ^ k := by
    rw [← natOfDigits_append_zeros, ← h, natOfDigits_natText]
  have hne : ds ≠ [] := by
    rintro rfl
    exact hn (hvalue.trans (Nat.zero_mul _))
  have hhead := head?_natText hn
  rw [h, List.head?_append, Option.or_of_isSome (List.isSome_head?.mpr hne)] at hhead
  have hdigits := (isDigits_natText n).2
  rw [h] at hdigits
  exact ⟨⟨hne, (List.forall_mem_append.mp hdigits).1⟩, hhead, hvalue⟩

/-! ## Numerals that are written -/

/-- No other digit stands behind a leading zero. -/
def NoLeadingZero (ds : List Char) : Prop := ds.head? = some '0' → ds = ['0']

/-- The text is that of a numeral which is no integer and whose nearest number is `x`. -/
structure Numeral.Writes (n : Numeral) (text : List Char) (x : Binary64) : Prop where
  literal : n.IsLiteral text
  lead : NoLeadingZero n.whole
  marked : n.fraction ≠ [] ∨ n.exponent ≠ none
  /-- Only without an exponent are there zeros in front of the first significant digit. -/
  significant : n.exponent = none ∨ n.whole.head? ≠ some '0'
  nearest : n.toDecimal.nearest = x

/-- The text behind a sign. -/
def signText (negative : Bool) : List Char := if negative then ['-'] else []

theorem Numeral.isLiteral_of_isUnsigned {n : Numeral} {text : List Char} (h : n.IsUnsigned text) :
    n.IsLiteral (signText n.negative ++ text) := by
  refine ⟨text, h, ?_⟩
  cases n.negative <;> rfl

section Magnitude

theorem isDigits_zero : IsDigits ['0'] := ⟨List.cons_ne_nil _ _, by simp⟩

theorem isDigit_of_mem_zeros {k : Nat} : ∀ c ∈ List.replicate k '0', c.isDigit = true := by
  intro c hc
  rw [List.eq_of_mem_replicate hc]
  rfl

theorem IsDigits.append_zeros {ds : List Char} (h : IsDigits ds) (k : Nat) :
    IsDigits (ds ++ List.replicate k '0') :=
  ⟨by simp [h.1], List.forall_mem_append.mpr ⟨h.2, isDigit_of_mem_zeros⟩⟩

theorem IsDigits.zeros_append {ds : List Char} (h : IsDigits ds) (k : Nat) :
    IsDigits (List.replicate k '0' ++ ds) :=
  ⟨by simp [h.1], List.forall_mem_append.mpr ⟨isDigit_of_mem_zeros, h.2⟩⟩

theorem IsDigits.split {ds : List Char} (h : IsDigits ds) {n : Nat} (hpos : 0 < n)
    (hn : n < ds.length) : IsDigits (ds.take n) ∧ IsDigits (ds.drop n) := by
  refine ⟨⟨?_, fun c hc => h.2 c (List.mem_of_mem_take hc)⟩,
    ⟨?_, fun c hc => h.2 c (List.mem_of_mem_drop hc)⟩⟩
  · simp [h.1, hpos.ne']
  · simpa using hn

variable {negative : Bool} {x : Binary64}

/-- Digits on both sides of a point. -/
theorem writes_positional {whole fraction : List Char} (hwhole : IsDigits whole)
    (hfraction : IsDigits fraction) (hlead : NoLeadingZero whole)
    (hx : (⟨negative, Decimal.natOfDigits (whole ++ fraction), -fraction.length⟩ : Decimal).nearest
      = x) :
    Numeral.Writes ⟨negative, whole, fraction, none⟩
      (signText negative ++ (whole ++ '.' :: fraction)) x where
  literal := Numeral.isLiteral_of_isUnsigned
    ⟨hwhole, '.' :: fraction, [], .point hfraction, .none, by rw [List.append_nil]⟩
  lead := hlead
  marked := Or.inl hfraction.1
  significant := Or.inl rfl
  nearest := by
    rw [← hx]
    congr 1
    simp [Numeral.toDecimal, Numeral.writtenExponent, Decimal.signed, Decimal.natOfDigits]

theorem exists_isExponent_exponentText (e : Int) :
    ∃ exponent, IsExponent (some exponent) ('e' :: exponentText e) ∧
      Decimal.signed exponent.1 (Decimal.natOfDigits exponent.2) = e := by
  have hdigits := isDigits_natText e.natAbs
  unfold exponentText intText
  by_cases he : e < 0
  · refine ⟨(true, natText e.natAbs), ?_, ?_⟩
    · rw [if_pos he, if_pos he]
      exact .mark (Or.inl rfl) rfl hdigits
    · simp only [natOfDigits_natText, Decimal.signed, if_true]
      omega
  · refine ⟨(false, natText e.natAbs), ?_, ?_⟩
    · rw [if_neg he, if_neg he]
      exact .mark (Or.inl rfl) rfl hdigits
    · simp only [natOfDigits_natText, Decimal.signed, Bool.false_eq_true, if_false]
      omega

/-- Digits with zeros up to the point, and one zero behind it. -/
theorem writes_filled {ds : List Char} (hds : IsDigits ds) (hlead : ds.head? ≠ some '0') {k : Nat}
    (hx : (⟨negative, Decimal.natOfDigits ds, k⟩ : Decimal).nearest = x) :
    Numeral.Writes ⟨negative, ds ++ List.replicate k '0', ['0'], none⟩
      (signText negative ++ (ds ++ List.replicate k '0' ++ ['.', '0'])) x := by
  refine writes_positional (hds.append_zeros k) isDigits_zero ?_ ?_
  · intro hzero
    rw [List.head?_append, Option.or_of_isSome (List.isSome_head?.mpr hds.1)] at hzero
    exact absurd hzero hlead
  · have hzeros : ds ++ List.replicate k '0' ++ ['0'] = ds ++ List.replicate (k + 1) '0' := by
      rw [List.replicate_succ', List.append_assoc]
    rw [hzeros, natOfDigits_append_zeros, Decimal.nearest_mul_pow, ← hx]
    congr 2
    simp only [List.length_singleton]
    omega

/-- Digits with a point between two of them. -/
theorem writes_divided {ds : List Char} (hds : IsDigits ds) (hlead : ds.head? ≠ some '0') {n : Nat}
    (hpos : 0 < n) (hn : n < ds.length)
    (hx : (⟨negative, Decimal.natOfDigits ds, n - ds.length⟩ : Decimal).nearest = x) :
    Numeral.Writes ⟨negative, ds.take n, ds.drop n, none⟩
      (signText negative ++ (ds.take n ++ '.' :: ds.drop n)) x := by
  obtain ⟨hfront, hback⟩ := hds.split hpos hn
  refine writes_positional hfront hback ?_ ?_
  · intro hzero
    rw [List.head?_take, if_neg hpos.ne'] at hzero
    exact absurd hzero hlead
  · rw [List.take_append_drop, ← hx, List.length_drop]
    congr 2
    omega

/-- Digits with zeros in front of them, behind the point. -/
theorem writes_shifted {ds : List Char} (hds : IsDigits ds) {k : Nat}
    (hx : (⟨negative, Decimal.natOfDigits ds, -(k : Int) - ds.length⟩ : Decimal).nearest = x) :
    Numeral.Writes ⟨negative, ['0'], List.replicate k '0' ++ ds, none⟩
      (signText negative ++ (['0', '.'] ++ List.replicate k '0' ++ ds)) x := by
  have htext : ['0', '.'] ++ List.replicate k '0' ++ ds
      = ['0'] ++ '.' :: (List.replicate k '0' ++ ds) := by
    rw [List.append_assoc]
    rfl
  have hzeros : ['0'] ++ (List.replicate k '0' ++ ds) = List.replicate (k + 1) '0' ++ ds := by
    rw [List.replicate_succ]
    rfl
  rw [htext]
  refine writes_positional isDigits_zero (hds.zeros_append k) (fun _ => rfl) ?_
  rw [hzeros, natOfDigits_zeros_append, ← hx, List.length_append, List.length_replicate]
  congr 2
  omega

/-- Digits with a point behind the first of them, if there are more, and an exponent. -/
theorem exists_writes_exponential {first : Char} {others : List Char}
    (hdigits : IsDigits (first :: others)) (hlead : first ≠ '0') {e : Int}
    (hx : (⟨negative, Decimal.natOfDigits (first :: others), e - others.length⟩ : Decimal).nearest
      = x) {mantissa : List Char}
    (hmantissa : mantissa = if others = [] then [first] else first :: '.' :: others) :
    ∃ n : Numeral, n.Writes (signText negative ++ (mantissa ++ 'e' :: exponentText e)) x := by
  obtain ⟨exponent, hexponent, he⟩ := exists_isExponent_exponentText e
  obtain ⟨hfirst, hothers⟩ := List.forall_mem_cons.mp hdigits.2
  have hwhole : IsDigits [first] := ⟨List.cons_ne_nil _ _, by simpa using hfirst⟩
  have hnonzero : [first].head? ≠ some '0' := by simpa using hlead
  obtain ⟨fraction, hfraction, htext⟩ :
      ∃ f, IsFraction others f ∧ mantissa = [first] ++ f := by
    rw [hmantissa]
    split_ifs with hnone
    · exact ⟨[], hnone ▸ .none, rfl⟩
    · exact ⟨'.' :: others, .point ⟨hnone, hothers⟩, rfl⟩
  refine ⟨⟨negative, [first], others, some exponent⟩, ?_, fun h => absurd h hnonzero,
    Or.inr nofun, Or.inr hnonzero, ?_⟩
  · refine Numeral.isLiteral_of_isUnsigned (n := ⟨negative, [first], others, some exponent⟩)
      ⟨hwhole, fraction, 'e' :: exponentText e, hfraction, hexponent, ?_⟩
    rw [htext, List.append_assoc]
  · rw [← hx, ← he]
    rfl

/-- **The ways to write a number have one value**, that of its digits with the point at the given
place. -/
theorem exists_writes_magnitudeText {ds : List Char} (point : Int) (hds : IsDigits ds)
    (hlead : ds.head? ≠ some '0')
    (hx : (⟨negative, Decimal.natOfDigits ds, point - ds.length⟩ : Decimal).nearest = x) :
    ∃ n : Numeral, n.Writes (signText negative ++ magnitudeText ds point) x := by
  unfold magnitudeText
  dsimp only
  split_ifs with hlong hwithin hsmall
  · have hexponent : point - ds.length = ((point - ds.length).toNat : Int) := by omega
    rw [hexponent] at hx
    exact ⟨_, writes_filled hds hlead hx⟩
  · have hexponent : point = (point.toNat : Int) := by omega
    rw [hexponent] at hx
    exact ⟨_, writes_divided hds hlead (by omega) (by omega) hx⟩
  · have hexponent : point = -((-point).toNat : Int) := by omega
    rw [hexponent] at hx
    exact ⟨_, writes_shifted hds hx⟩
  · obtain ⟨first, others, rfl⟩ := List.exists_cons_of_ne_nil hds.1
    have hfirst : first ≠ '0' := fun h => hlead (congrArg some h)
    have hexponent : point - (first :: others).length = point - 1 - others.length := by
      rw [List.length_cons]
      omega
    rw [hexponent] at hx
    refine exists_writes_exponential hds hfirst hx ?_
    cases others <;> rfl

/-! ## The text of a number -/

/-- **The text of a number is that of a numeral whose nearest number it is.** -/
theorem exists_writes_floatText (hx : x.rank ≤ Binary64.infinityRank) :
    ∃ n : Numeral, n.Writes (floatText x) x := by
  unfold floatText
  dsimp only
  by_cases hzero : x.isZero = true
  · rw [if_pos hzero]
    have hrank : x.rank = 0 := by simpa [Binary64.isZero] using hzero
    have hnearest : (⟨x.negative, Decimal.natOfDigits ['0', '0'], -1⟩ : Decimal).nearest = x := by
      refine Binary64.ext (Decimal.negative_nearest _) ?_
      rw [hrank]
      exact Decimal.rank_nearest_of_digits_eq_zero rfl
    exact ⟨_, writes_positional isDigits_zero isDigits_zero (fun _ => rfl) hnearest⟩
  · rw [if_neg hzero]
    rw [Bool.not_eq_true] at hzero
    obtain ⟨numeral, hnumeral⟩ : ∃ d, d = x.shortest := ⟨_, rfl⟩
    have hnearest : numeral.nearest = x := hnumeral ▸ Binary64.nearest_shortest hx
    have hsign : numeral.negative = x.negative := hnumeral ▸ Binary64.negative_shortest hx
    have hdigits : numeral.digits ≠ 0 := hnumeral ▸ Binary64.digits_shortest_ne_zero hx hzero
    rw [← hnumeral]
    obtain ⟨k, hsplit⟩ := exists_significant (natText numeral.digits)
    generalize ((natText numeral.digits).reverse.dropWhile (· == '0')).reverse = significant
      at hsplit ⊢
    obtain ⟨hds, hlead, hvalue⟩ := significant_of_natText hdigits hsplit
    -- the zeros that are not written count for the place of the point
    have hplaced : (⟨x.negative, Decimal.natOfDigits significant,
        (natText numeral.digits).length + numeral.exponent - significant.length⟩ : Decimal).nearest
          = x := by
      have hexponent : ((natText numeral.digits).length : Int) + numeral.exponent
          - significant.length = numeral.exponent + k := by
        rw [hsplit, List.length_append, List.length_replicate]
        omega
      rw [hexponent, ← Decimal.nearest_mul_pow, ← hvalue, ← hsign]
      exact hnearest
    exact exists_writes_magnitudeText _ hds hlead hplaced

end Magnitude

/-! ## The text of an integer -/

/-- Whole digits of at most 64 bits are all collected. -/
theorem collectWhole_of_lt {s : Nat} {ds : List Char} (h : extend s ds < 0x10000000000000000) :
    collectWhole s ds = (extend s ds, 0) := by
  induction ds generalizing s with
  | nil => rfl
  | cons d ds ih =>
      have hfits : fits s (Decimal.digitValue d) = true := by
        simp only [fits, decide_eq_true_eq]
        exact (le_extend _ ds).trans_lt h
      rw [collectWhole, if_pos hfits, ih h]
      rfl

theorem noLeadingZero_natText (n : Nat) : NoLeadingZero (natText n) := by
  intro hzero
  by_cases hn : n = 0
  · rw [hn]
    rfl
  · exact absurd hzero (head?_natText hn)

/-- **The text of an integer is that of a numeral that is this integer.** -/
theorem exists_literal_intText {i : Int} (hlow : -0x8000000000000000 ≤ i)
    (hhigh : i < 0x10000000000000000) :
    ∃ n : Numeral, n.IsLiteral (intText i) ∧ NoLeadingZero n.whole ∧ n.integer? = some i := by
  have hdigits := isDigits_natText i.natAbs
  have hcollect : collectWhole 0 (natText i.natAbs) = (i.natAbs, 0) := by
    have hvalue : extend 0 (natText i.natAbs) = i.natAbs := natOfDigits_natText i.natAbs
    rw [collectWhole_of_lt (by omega), hvalue]
  refine ⟨⟨decide (i < 0), natText i.natAbs, [], none⟩,
    ⟨natText i.natAbs, ⟨hdigits, [], [], .none, .none, by simp⟩, ?_⟩,
    noLeadingZero_natText _, ?_⟩
  · simp [intText]
  · simp only [Numeral.integer?, hcollect]
    by_cases hi : i < 0
    · have hrange : ¬ (i.natAbs = 0 ∨ 0x8000000000000000 < i.natAbs) := by omega
      simp only [hi, decide_true, List.isEmpty_nil, Option.isNone_none, Bool.and_self, if_true,
        ne_eq, not_true_eq_false, if_false, Bool.not_true, Bool.false_eq_true, hrange]
      congr 1
      omega
    · simp only [hi, decide_false, List.isEmpty_nil, Option.isNone_none, Bool.and_self, if_true,
        ne_eq, not_true_eq_false, if_false, Bool.not_false]
      congr 1
      omega

end Specimen.Json
