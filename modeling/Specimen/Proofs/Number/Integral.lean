import Specimen.Proofs.Number.Shortest

set_option autoImplicit false

/-! # Rounding to integers

Two operations of the format that lead to integers: a number is rounded to the nearest one, halves
away from zero (`Binary64.round`), and a number is converted to an integer of 64 bits, where what is
out of range becomes the least or the greatest of them (`Binary64.toInt64`).

Rounding gives a number of the format, so it is one more number that is compared with the first. It
leaves infinities and integers alone and changes all other numbers (`same_round_iff`), because they
are so small that the nearest integer is a number of the format.
-/

namespace Specimen.Number.Binary64

/-! ## Rounding -/

/-- The magnitude of a finite number rounded to a natural number; a half is rounded up. -/
def roundedMagnitude (x : Binary64) : Nat := (2 * x.units + one) / (2 * one)

/-- The number rounded to an integer, a half away from zero. The sign stays, also that of zero.
Infinities and what is no number stay as they are. -/
def round (x : Binary64) : Binary64 :=
  if x.isNaN || x.isInfinite then x else ofQuotient x.negative x.roundedMagnitude 1

variable {x : Binary64}

theorem roundedMagnitude_le {m : Nat} (h : x.units ≤ m * one) : x.roundedMagnitude ≤ m := by
  have hone := one_pos
  have hsum : 2 * x.units + one < (m + 1) * (2 * one) := by
    calc 2 * x.units + one ≤ 2 * (m * one) + one := by omega
      _ < 2 * (m * one) + 2 * one := by omega
      _ = (m + 1) * (2 * one) := by rw [Nat.add_mul, Nat.one_mul, Nat.mul_left_comm]
  have hquotient : x.roundedMagnitude < m + 1 := (Nat.div_lt_iff_lt_mul (by omega)).mpr hsum
  omega

theorem roundedMagnitude_of_units {m : Nat} (h : x.units = m * one) : x.roundedMagnitude = m := by
  have hone := one_pos
  apply Nat.le_antisymm (roundedMagnitude_le h.le)
  apply (Nat.le_div_iff_mul_le (by omega)).mpr
  rw [h, Nat.mul_left_comm]
  exact Nat.le_add_right _ _

/-- A number with a fractional part is small. -/
theorem units_le_of_not_isWhole (h : x.isWhole = false) : x.units ≤ (2 ^ 53 - 1) * one := by
  have hrank : x.rank < largeRank := by
    by_contra hlarge
    rw [(of_largeRank_le (not_lt.mp hlarge)).1] at h
    cases h
  have hfield : x.exponentField < 1076 := (Nat.div_lt_iff_lt_mul (by decide)).mpr hrank
  -- the exponent of one unit is kept out of sight, so that no power of two is computed
  obtain ⟨places, hone, hplaces⟩ : ∃ places, one = 2 ^ places ∧ places = 1074 := ⟨_, one_eq, rfl⟩
  have hshift : x.shift ≤ places := by
    rw [shift]
    omega
  have hsignificand : x.significand ≤ 2 ^ 53 - 1 := by
    have hfraction : x.rank % fractionSize < fractionSize := Nat.mod_lt _ (by decide)
    have hsize : fractionSize = 2 ^ 52 := rfl
    unfold significand
    split_ifs <;> omega
  have hpower : Nat.pow 2 x.shift ≤ one := by
    rw [hone]
    exact Nat.pow_le_pow_right (by decide) hshift
  exact Nat.mul_le_mul hsignificand hpower

/-- A number that stands for a natural number below `2⁵³` has no fractional part. -/
theorem isWhole_ofQuotient (negative : Bool) {n : Nat} (h : n < 2 ^ 53) :
    (ofQuotient negative n 1).isWhole = true := by
  have hunits : (ofQuotient negative n 1).units = n * one := units_ofNat_of_lt h
  rw [isWhole, hunits, Nat.mul_mod_left]
  rfl

theorem negative_ofQuotient (negative : Bool) (num den : Nat) :
    (ofQuotient negative num den).negative = negative := rfl

/-- An integer is not changed by rounding. -/
theorem round_of_isWhole (hx : x.IsFinite) (h : x.isWhole = true) : x.round = x := by
  obtain ⟨hnan, hinfinite⟩ := isFinite_iff.mp hx
  have hdvd : one ∣ x.units := Nat.dvd_of_mod_eq_zero (by simpa [isWhole] using h)
  have hunits : x.units = x.units / one * one := (Nat.div_mul_cancel hdvd).symm
  have hmagnitude := roundedMagnitude_of_units hunits
  rw [round, hnan, hinfinite, Bool.or_self, if_neg Bool.false_ne_true]
  apply ext
  · exact negative_ofQuotient _ _ _
  · show nearestRank (x.roundedMagnitude * one) 1 = x.rank
    rw [hmagnitude, ← hunits]
    exact nearestRank_units hx.le

/-- Rounding gives a number without a fractional part. -/
theorem isWhole_round (hx : x.IsFinite) : x.round.isWhole = true := by
  cases h : x.isWhole with
  | true => rw [round_of_isWhole hx h, h]
  | false =>
      obtain ⟨hnan, hinfinite⟩ := isFinite_iff.mp hx
      have hsmall := roundedMagnitude_le (units_le_of_not_isWhole h)
      rw [round, hnan, hinfinite, Bool.or_self, if_neg Bool.false_ne_true]
      apply isWhole_ofQuotient
      omega

theorem isWhole_of_isZero (h : x.isZero = true) : x.isWhole = true := by
  have hrank : x.rank = 0 := by simpa [isZero] using h
  rw [isWhole, units_of_rank_eq_zero hrank, Nat.zero_mod]
  rfl

theorem same_self : x.same x = !x.isNaN := by
  simp [same]

/-- **Rounding changes exactly the numbers with a fractional part**, and what is no number is not
the same as anything. -/
theorem same_round_iff :
    x.same x.round = true ↔ x.isNaN = false ∧ (x.isInfinite = true ∨ x.isWhole = true) := by
  cases hnan : x.isNaN with
  | true => simp [same, hnan]
  | false =>
      cases hinfinite : x.isInfinite with
      | true =>
          have hround : x.round = x := by
            rw [round, hinfinite, Bool.or_true, if_pos rfl]
          simp [hround, same_self, hnan]
      | false =>
          have hx : x.IsFinite := isFinite_iff.mpr ⟨hnan, hinfinite⟩
          cases hwhole : x.isWhole with
          | true => simp [round_of_isWhole hx hwhole, same_self, hnan]
          | false =>
              -- the rounded number has no fractional part, so it is another one
              have hne : x ≠ x.round := by
                intro heq
                have hrounded := isWhole_round hx
                rw [← heq, hwhole] at hrounded
                cases hrounded
              have hzero : x.isZero = false := by
                by_contra hzero
                rw [isWhole_of_isZero (by simpa using hzero)] at hwhole
                cases hwhole
              simp [same, hne, hzero]

/-! ## Conversion -/

/-- The least integer of 64 bits. -/
def leastInt64 : Int := -0x8000000000000000

/-- The greatest integer of 64 bits. -/
def greatestInt64 : Int := 0x7FFFFFFFFFFFFFFF

/-- The integer of 64 bits that is nearest to an integer. -/
def saturate (k : Int) : Int := max leastInt64 (min greatestInt64 k)

/-- The number as an integer of 64 bits: fractions are dropped, what is out of range becomes the
nearest integer in range, and what is no number becomes zero. -/
def toInt64 (x : Binary64) : Int :=
  if x.isNaN then 0
  else if x.isInfinite then if x.negative then leastInt64 else greatestInt64
  else saturate (Decimal.signed x.negative (x.units / one))

theorem toInt64_of_isInteger {k : Int} (hk : x.IsInteger k) : x.toInt64 = saturate k := by
  obtain ⟨hnan, hinfinite⟩ := isFinite_iff.mp hk.1
  have hscaled := hk.2
  have hsigned : Decimal.signed x.negative (x.units / one) = k := by
    have hone : (one : Int) ≠ 0 := Int.natCast_ne_zero.mpr one_pos.ne'
    apply Int.eq_of_mul_eq_mul_right hone
    rw [← hscaled]
    -- the units of the magnitude are those of a whole number
    have hdvd : one ∣ x.units := by
      have hwhole := (isWhole_iff hk.1).mpr ⟨k, hk⟩
      exact Nat.dvd_of_mod_eq_zero (by simpa [isWhole] using hwhole)
    have hunits : ((x.units / one : Nat) : Int) * one = x.units := by
      rw [← Int.natCast_mul, Nat.div_mul_cancel hdvd]
    unfold Decimal.signed signedUnits
    split_ifs
    · rw [Int.neg_mul, hunits]
    · exact hunits
  rw [toInt64, hnan, hinfinite, if_neg Bool.false_ne_true, if_neg Bool.false_ne_true, hsigned]

/-- Fitting into the range does not move integers past a bound within it. -/
theorem le_saturate_iff {bound k : Int} (hlow : leastInt64 < bound)
    (hhigh : bound ≤ greatestInt64) :
    bound ≤ saturate k ↔ bound ≤ k := by
  unfold saturate
  omega

end Specimen.Number.Binary64
