import Specimen.Number.Decimal
import Specimen.Proofs.Number.Rounding

set_option autoImplicit false

/-! # The number nearest to a decimal numeral

The rank of the nearest number where the numeral is zero, short or large. A short numeral has
digits and a power of ten that are numbers of the format (`Decimal.IsShort`), so that one rounding
of their product or quotient gives the nearest number. A large one is an integer from `2⁵³` on.
-/

namespace Specimen.Number.Decimal

/-- The digits and the power of ten are numbers of the binary64 format. -/
def IsShort (d : Decimal) : Prop := d.digits < 2 ^ 53 ∧ -22 ≤ d.exponent ∧ d.exponent ≤ 22

/-- An integer whose digits or power of ten alone make it `2⁵³` or more. -/
def IsLarge (d : Decimal) : Prop :=
  d.digits ≠ 0 ∧ 0 ≤ d.exponent ∧ (2 ^ 53 ≤ d.digits ∨ 22 < d.exponent)

/-- Zero, an integer without decimal places, or short. -/
def IsWholeOrShort (d : Decimal) : Prop := d.digits = 0 ∨ 0 ≤ d.exponent ∨ d.IsShort

instance (d : Decimal) : Decidable d.IsShort := inferInstanceAs (Decidable (_ ∧ _ ∧ _))

instance (d : Decimal) : Decidable d.IsWholeOrShort := inferInstanceAs (Decidable (_ ∨ _ ∨ _))

/-- An integer that is not short is large. -/
theorem IsWholeOrShort.cases {d : Decimal} (h : d.IsWholeOrShort) :
    d.digits = 0 ∨ (d.digits ≠ 0 ∧ d.IsShort) ∨ d.IsLarge := by
  by_cases hdigits : d.digits = 0
  · exact Or.inl hdigits
  right
  rcases h with hzero | hexponent | hshort
  · exact absurd hzero hdigits
  · by_cases hlarge : 2 ^ 53 ≤ d.digits ∨ 22 < d.exponent
    · exact Or.inr ⟨hdigits, hexponent, hlarge⟩
    · rw [not_or, not_le, not_lt] at hlarge
      exact Or.inl ⟨hdigits, hlarge.1, by omega, hlarge.2⟩
  · exact Or.inl ⟨hdigits, hshort⟩

theorem natAbs_signed (negative : Bool) (n : Nat) : (signed negative n).natAbs = n := by
  cases negative <;> simp [signed]

theorem negative_nearest (d : Decimal) : d.nearest.negative = d.negative := by
  unfold nearest
  dsimp only
  split_ifs <;> rfl

theorem rank_nearest_of_digits_eq_zero {d : Decimal} (h : d.digits = 0) : d.nearest.rank = 0 := by
  rw [nearest, if_pos h]
  rfl

/-- Without a power of ten the digits are rounded. -/
theorem nearest_of_exponent_eq_zero {d : Decimal} (h : d.exponent = 0) :
    d.nearest = Binary64.ofQuotient d.negative d.digits 1 := by
  by_cases hdigits : d.digits = 0
  · refine Binary64.ext (negative_nearest d) ?_
    rw [rank_nearest_of_digits_eq_zero hdigits, hdigits]
    show 0 = nearestRank (0 * Binary64.one) 1
    rw [Nat.zero_mul, nearestRank_zero]
  · have hpower : d.digits * Nat.pow 10 d.exponent.toNat = d.digits := by
      rw [h]
      exact Nat.mul_one d.digits
    rw [nearest, if_neg hdigits, if_pos h.ge, if_neg (by rw [h]; decide), hpower]

theorem rank_nearest_of_isShort_of_nonneg {d : Decimal} (hd : d.IsShort) (hdigits : d.digits ≠ 0)
    (hexponent : 0 ≤ d.exponent) :
    d.nearest.rank = nearestRank (d.digits * 10 ^ d.exponent.toNat * Binary64.one) 1 := by
  have hpower : ¬ (largestPower : Int) ≤ d.exponent := by
    have := hd.2.2
    simp only [largestPower]
    omega
  rw [nearest, if_neg hdigits, if_pos hexponent, if_neg hpower]
  rfl

theorem rank_nearest_of_isShort_of_neg {d : Decimal} (hd : d.IsShort) (hdigits : d.digits ≠ 0)
    (hexponent : d.exponent < 0) :
    d.nearest.rank = nearestRank (d.digits * Binary64.one) (10 ^ (-d.exponent).toNat) := by
  have hplaces : ¬ Nat.log2 d.digits / 3 + 1 + smallestPower ≤ (-d.exponent).toNat := by
    have := hd.2.1
    simp only [smallestPower]
    omega
  rw [nearest, if_neg hdigits, if_neg (Int.not_le.mpr hexponent)]
  dsimp only
  rw [if_neg hplaces]
  rfl

/-- **The number nearest to a large integer is large.** -/
theorem largeRank_le_rank_nearest {d : Decimal} (hd : d.IsLarge) : largeRank ≤ d.nearest.rank := by
  obtain ⟨hdigits, hexponent, hlarge⟩ := hd
  rw [nearest, if_neg hdigits, if_pos hexponent]
  split_ifs
  · show largeRank ≤ Binary64.infinityRank
    decide
  · refine largeRank_le_nearestRank Nat.one_pos ?_
    rw [Nat.mul_one]
    refine Nat.mul_le_mul_right _ ?_
    show 2 ^ 53 ≤ d.digits * 10 ^ d.exponent.toNat
    rcases hlarge with hlarge | hlarge
    · exact hlarge.trans (Nat.le_mul_of_pos_right _ (Nat.pow_pos (by decide)))
    · calc 2 ^ 53 ≤ 10 ^ 23 := by decide
        _ ≤ 10 ^ d.exponent.toNat := Nat.pow_le_pow_right (by decide) (by omega)
        _ ≤ d.digits * 10 ^ d.exponent.toNat :=
          Nat.le_mul_of_pos_left _ (Nat.pos_of_ne_zero hdigits)

theorem rank_nearest_le (d : Decimal) : d.nearest.rank ≤ Binary64.infinityRank := by
  have hzero : 0 ≤ Binary64.infinityRank := Nat.zero_le _
  unfold nearest
  dsimp only
  split_ifs
  · exact hzero
  · exact le_rfl
  · exact nearestRank_le_infinityRank _ _
  · exact hzero
  · exact nearestRank_le_infinityRank _ _

end Specimen.Number.Decimal
