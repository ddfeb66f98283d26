import Mathlib.Algebra.Order.Ring.Nat
import Specimen.Proofs.Number.Whole

set_option autoImplicit false

/-! # Rounding to the nearest number

What the rounding of quotients does, as far as the type of a number depends on it. Rounding sees
only the ratio of the two numbers (`nearestRank_mul_right`); a quotient with at most 53 binary
digits is not changed (`units_ofUnits_of_significand`); and a quotient that is large enough goes
to a number that is large, which has no fractional part (`largeRank_le_nearestRank`).
-/

namespace Specimen.Number

/-! ## Ratios -/

theorem roundedQuotient_mul_right (num den : Nat) {c : Nat} (hc : 0 < c) :
    roundedQuotient (num * c) (den * c) = roundedQuotient num den := by
  have hlt : den * c < 2 * (num * c % (den * c)) ↔ den < 2 * (num % den) := by
    rw [Nat.mul_mod_mul_right, ← Nat.mul_assoc]
    exact Nat.mul_lt_mul_right hc
  have heq : 2 * (num * c % (den * c)) = den * c ↔ 2 * (num % den) = den := by
    rw [Nat.mul_mod_mul_right, ← Nat.mul_assoc]
    exact Nat.mul_left_inj hc.ne'
  simp only [roundedQuotient, Nat.mul_div_mul_right _ _ hc, decide_eq_decide.mpr hlt, beq_eq_decide,
    decide_eq_decide.mpr heq]

/-- **Rounding sees only the ratio.** -/
theorem nearestRank_mul_right (num den : Nat) {c : Nat} (hc : 0 < c) :
    nearestRank (num * c) (den * c) = nearestRank num den := by
  have hassoc : ∀ m, den * c * m = den * m * c := fun m => Nat.mul_right_comm den c m
  simp only [nearestRank, Nat.mul_div_mul_right _ _ hc, hassoc, roundedQuotient_mul_right _ _ hc]

theorem div_le_roundedQuotient (num den : Nat) : num / den ≤ roundedQuotient num den := by
  unfold roundedQuotient
  dsimp only
  split_ifs <;> omega

theorem roundedQuotient_one (n : Nat) : roundedQuotient n 1 = n := by
  simp [roundedQuotient, Nat.mod_one]

theorem nearestRank_zero (den : Nat) : nearestRank 0 den = 0 := by
  simp [nearestRank, roundedQuotient]

/-! ## Quotients that are not changed -/

theorem log2_mul_two_pow {m : Nat} (hm : m ≠ 0) (j : Nat) :
    Nat.log2 (m * 2 ^ j) = Nat.log2 m + j := by
  obtain ⟨hlow, hhigh⟩ := (Nat.log2_eq_iff hm).mp rfl
  refine (Nat.log2_eq_iff (Nat.mul_ne_zero hm (Nat.two_pow_pos j).ne')).mpr ⟨?_, ?_⟩
  · rw [Nat.pow_add]
    exact Nat.mul_le_mul_right _ hlow
  · rw [Nat.add_right_comm, Nat.pow_add]
    exact Nat.mul_lt_mul_of_pos_right hhigh (Nat.two_pow_pos j)

/-- A significand that is shifted until its first digit is the first of 53 fills all of them. -/
theorem shifted_fills {m : Nat} (hm : m ≠ 0) (hdigits : m < 2 ^ 53) :
    Binary64.fractionSize ≤ m * 2 ^ (52 - Nat.log2 m) ∧
      m * 2 ^ (52 - Nat.log2 m) < 2 * Binary64.fractionSize := by
  have hlog : Nat.log2 m ≤ 52 := Nat.lt_succ_iff.mp ((Nat.log2_lt hm).mpr hdigits)
  obtain ⟨hlow, hhigh⟩ := (Nat.log2_eq_iff hm).mp rfl
  constructor
  · calc Binary64.fractionSize = 2 ^ Nat.log2 m * 2 ^ (52 - Nat.log2 m) := by
          rw [← Nat.pow_add, Nat.add_sub_cancel' hlog]
          rfl
      _ ≤ m * 2 ^ (52 - Nat.log2 m) := Nat.mul_le_mul_right _ hlow
  · calc m * 2 ^ (52 - Nat.log2 m)
        < 2 ^ (Nat.log2 m + 1) * 2 ^ (52 - Nat.log2 m) :=
          Nat.mul_lt_mul_of_pos_right hhigh (Nat.two_pow_pos _)
      _ = 2 ^ 53 := by
          rw [← Nat.pow_add]
          congr 1
          omega
      _ = 2 * Binary64.fractionSize := rfl

/-- The rank of a number whose significand `m` is shifted until it fills all its digits. -/
theorem nearestRank_of_significand {m j : Nat} (hm : m ≠ 0) (hdigits : m < 2 ^ 53) (hlow : 52 ≤ j)
    (hhigh : j ≤ 2045) :
    nearestRank (m * 2 ^ j) 1
      = (Nat.log2 m + j - 52) * Binary64.fractionSize + m * 2 ^ (52 - Nat.log2 m) := by
  have hlog : Nat.log2 m ≤ 52 := Nat.lt_succ_iff.mp ((Nat.log2_lt hm).mpr hdigits)
  have hfactor : m * 2 ^ j = m * 2 ^ (52 - Nat.log2 m) * 2 ^ (Nat.log2 m + j - 52) := by
    rw [Nat.mul_assoc, ← Nat.pow_add]
    congr 2
    omega
  have hrounded : roundedQuotient (m * 2 ^ j) (1 * 2 ^ (Nat.log2 m + j - 52))
      = m * 2 ^ (52 - Nat.log2 m) := by
    rw [hfactor, roundedQuotient_mul_right _ _ (Nat.two_pow_pos _), roundedQuotient_one]
  unfold nearestRank
  rw [Nat.div_one, log2_mul_two_pow hm]
  show min _ (_ + roundedQuotient (m * 2 ^ j) (1 * 2 ^ (Nat.log2 m + j - 52))) = _
  rw [hrounded]
  refine Nat.min_eq_right ?_
  have hfills := (shifted_fills hm hdigits).2
  have hinfinity : Binary64.infinityRank = 2047 * Binary64.fractionSize := rfl
  have hshift : (Nat.log2 m + j - 52) * Binary64.fractionSize ≤ 2045 * Binary64.fractionSize :=
    Nat.mul_le_mul_right _ (by omega)
  omega

namespace Binary64

/-- A number is known by its sign and its rank. -/
theorem ext {x y : Binary64} (hnegative : x.negative = y.negative)
    (hrank : x.rank = y.rank) : x = y := by
  cases x
  cases y
  simp_all

theorem one_eq : one = 2 ^ 1074 := by
  unfold one
  generalize 1074 = n
  rfl

/-- The magnitude of a number whose significand fills all its digits. -/
theorem units_of_rank {x : Binary64} {shift q : Nat} (hrank : x.rank = shift * fractionSize + q)
    (hlow : fractionSize ≤ q) (hhigh : q < 2 * fractionSize) : x.units = q * 2 ^ shift := by
  have hpos : 0 < fractionSize := by decide
  have hfield : x.exponentField = shift + 1 := by
    rw [exponentField, hrank]
    refine Nat.div_eq_of_lt_le ?_ ?_ <;> simp only [Nat.add_mul] <;> omega
  have hmod : x.rank % fractionSize = q - fractionSize := by
    rw [hrank, Nat.mul_add_mod_self_right, Nat.mod_eq_sub_mod hlow, Nat.mod_eq_of_lt]
    omega
  have hsignificand : x.significand = q := by
    rw [significand, hfield, if_neg (Nat.succ_ne_zero shift), hmod]
    omega
  rw [units, hsignificand, Binary64.shift, hfield]
  rfl

theorem units_of_rank_eq_zero {x : Binary64} (h : x.rank = 0) : x.units = 0 := by
  simp [units, significand, exponentField, h]

/-- **A number with at most 53 binary digits is not changed**, at exponents that let it fill all
its digits. -/
theorem units_ofUnits_of_significand (negative : Bool) {m j : Nat} (hm : m ≠ 0)
    (hdigits : m < 2 ^ 53) (hlow : 52 ≤ j) (hhigh : j ≤ 2045) :
    (ofUnits negative (m * 2 ^ j) 1).units = m * 2 ^ j := by
  have hlog : Nat.log2 m ≤ 52 := Nat.lt_succ_iff.mp ((Nat.log2_lt hm).mpr hdigits)
  obtain ⟨hfills, hfills'⟩ := shifted_fills hm hdigits
  rw [units_of_rank (nearestRank_of_significand hm hdigits hlow hhigh) hfills hfills',
    Nat.mul_assoc, ← Nat.pow_add]
  congr 2
  omega

/-- The natural numbers with at most 53 binary digits, times a power of two, are numbers of the
format. -/
theorem units_ofNat {m j : Nat} (hdigits : m < 2 ^ 53) (hj : j ≤ 971) :
    (ofNat (m * 2 ^ j)).units = m * 2 ^ j * one := by
  by_cases hm : m = 0
  · subst hm
    rw [Nat.zero_mul, Nat.zero_mul]
    refine units_of_rank_eq_zero ?_
    show nearestRank (0 * one) 1 = 0
    rw [Nat.zero_mul, nearestRank_zero]
  · have hunits : m * 2 ^ j * one = m * 2 ^ (j + 1074) := by
      rw [one_eq, Nat.mul_assoc, ← Nat.pow_add]
    show (ofUnits false (m * 2 ^ j * one) 1).units = _
    rw [hunits]
    exact units_ofUnits_of_significand false hm hdigits (by omega) (by omega)

theorem units_ofNat_of_lt {n : Nat} (h : n < 2 ^ 53) : (ofNat n).units = n * one := by
  simpa using units_ofNat (j := 0) h (by decide)

end Binary64

/-! ## Large numbers -/

/-- The rank of `2⁵³`, from which on all numbers are whole. -/
def largeRank : Nat := 1076 * Binary64.fractionSize

/-- **A quotient from `2⁵³` on goes to a number from `2⁵³` on**, which may be infinite. -/
theorem largeRank_le_nearestRank {num den : Nat} (hden : 0 < den)
    (h : 2 ^ 53 * Binary64.one * den ≤ num) : largeRank ≤ nearestRank num den := by
  obtain ⟨digits, hexponent⟩ : ∃ digits, digits = 53 + 1074 := ⟨_, rfl⟩
  have hscale : 2 ^ 53 * Binary64.one = 2 ^ digits := by
    rw [Binary64.one_eq, hexponent, Nat.pow_add]
  rw [hscale] at h
  have hquotient : 2 ^ digits ≤ num / den := (Nat.le_div_iff_mul_le hden).mpr h
  have hne : num / den ≠ 0 := (Nat.lt_of_lt_of_le (Nat.two_pow_pos _) hquotient).ne'
  have hlog : digits ≤ Nat.log2 (num / den) := (Nat.le_log2 hne).mpr hquotient
  -- what is left of the quotient after the shift has 53 digits
  have hdigits : Binary64.fractionSize
      ≤ roundedQuotient num (den * 2 ^ (Nat.log2 (num / den) - 52)) := by
    refine le_trans ?_ (div_le_roundedQuotient _ _)
    rw [← Nat.div_div_eq_div_mul, Nat.le_div_iff_mul_le (Nat.two_pow_pos _)]
    calc Binary64.fractionSize * 2 ^ (Nat.log2 (num / den) - 52)
        = 2 ^ Nat.log2 (num / den) := by
          show 2 ^ 52 * 2 ^ (Nat.log2 (num / den) - 52) = _
          rw [← Nat.pow_add, Nat.add_sub_cancel' (by omega)]
      _ ≤ num / den := Nat.log2_self_le hne
  have hshift : 1075 * Binary64.fractionSize
      ≤ (Nat.log2 (num / den) - 52) * Binary64.fractionSize :=
    Nat.mul_le_mul_right _ (by omega)
  refine Nat.le_min.mpr ⟨by decide, ?_⟩
  show 1076 * Binary64.fractionSize ≤ _
  have hsum := Nat.add_le_add hshift hdigits
  rwa [← Nat.succ_mul] at hsum

theorem nearestRank_le_infinityRank (num den : Nat) :
    nearestRank num den ≤ Binary64.infinityRank := Nat.min_le_left _ _

/-- **A quotient that is not too large goes to a finite number.** -/
theorem nearestRank_lt_infinityRank {num den : Nat} (digits : Nat) (h : num / den < 2 ^ digits)
    (hdigits : digits ≤ 2000) : nearestRank num den < Binary64.infinityRank := by
  obtain ⟨shift, hshift⟩ : ∃ shift, shift = Nat.log2 (num / den) - 52 := ⟨_, rfl⟩
  have hlog : Nat.log2 (num / den) ≤ digits := by
    by_cases hzero : num / den = 0
    · rw [hzero]
      exact Nat.zero_le _
    · exact ((Nat.log2_lt hzero).mpr h).le
  -- what is left of the quotient after the shift has at most 53 digits
  have hquotient : num / (den * 2 ^ shift) < 2 ^ 53 := by
    rw [← Nat.div_div_eq_div_mul, Nat.div_lt_iff_lt_mul (Nat.two_pow_pos _), ← Nat.pow_add]
    calc num / den < 2 ^ (Nat.log2 (num / den) + 1) := Nat.lt_log2_self
      _ ≤ 2 ^ (53 + shift) := Nat.pow_le_pow_right (by decide) (by omega)
  have hrounded : roundedQuotient num (den * 2 ^ shift) ≤ 2 * Binary64.fractionSize := by
    have hsize : 2 * Binary64.fractionSize = 2 ^ 53 := rfl
    unfold roundedQuotient
    dsimp only
    split_ifs <;> omega
  have hscaled : shift * Binary64.fractionSize ≤ 1948 * Binary64.fractionSize :=
    Nat.mul_le_mul_right _ (by omega)
  refine lt_of_le_of_lt (Nat.min_le_right _ _) ?_
  rw [← hshift]
  calc shift * Binary64.fractionSize + roundedQuotient num (den * 2 ^ shift)
    _ ≤ 1948 * Binary64.fractionSize + 2 * Binary64.fractionSize :=
      Nat.add_le_add hscaled hrounded
    _ < Binary64.infinityRank := by decide

namespace Binary64

/-- A large finite number is whole and at least `2⁵³`. -/
theorem of_largeRank_le {x : Binary64} (h : largeRank ≤ x.rank) :
    x.isWhole = true ∧ 2 ^ 53 * one ≤ x.units := by
  have hfield : 1076 ≤ x.exponentField :=
    (Nat.le_div_iff_mul_le (by decide)).mpr h
  have hsignificand : fractionSize ≤ x.significand := by
    rw [significand, if_neg (by omega)]
    exact Nat.le_add_right _ _
  have hshift : 1075 ≤ x.shift := by
    rw [Binary64.shift]
    omega
  have hunits : x.units = x.significand * 2 ^ (x.shift - 1074) * one := by
    rw [units, one_eq, Nat.mul_assoc, ← Nat.pow_add, Nat.sub_add_cancel (by omega)]
    rfl
  constructor
  · rw [isWhole, hunits, Nat.mul_mod_left]
    rfl
  · rw [hunits]
    refine Nat.mul_le_mul_right _ ?_
    calc 2 ^ 53 = fractionSize * 2 ^ 1 := rfl
      _ ≤ x.significand * 2 ^ (x.shift - 1074) :=
        Nat.mul_le_mul hsignificand (Nat.pow_le_pow_right (by decide) (by omega))

theorem largeRank_le_ofNat {n : Nat} (h : 2 ^ 53 ≤ n) : largeRank ≤ (ofNat n).rank := by
  refine largeRank_le_nearestRank Nat.one_pos ?_
  rw [Nat.mul_one]
  exact Nat.mul_le_mul_right one h

/-- **An integer with at most 53 binary digits is not changed.** -/
theorem isInteger_ofInt {n : Int} (h : n.natAbs < 2 ^ 53) : (ofInt n).IsInteger n := by
  have hunits : (ofInt n).units = n.natAbs * one := units_ofNat_of_lt h
  obtain ⟨places, hone, hplaces⟩ : ∃ places, one = 2 ^ places ∧ places = 1074 := ⟨_, one_eq, rfl⟩
  refine ⟨nearestRank_lt_infinityRank (53 + places) ?_ (by omega), ?_⟩
  · rw [Nat.div_one, Nat.pow_add, ← hone]
    exact Nat.mul_lt_mul_of_pos_right h one_pos
  · rw [signedUnits, hunits, Int.natCast_mul]
    show (if decide (n < 0) = true then _ else _) = _
    by_cases hn : n < 0
    · rw [if_pos (decide_eq_true hn), Int.ofNat_natAbs_of_nonpos hn.le, Int.neg_mul, Int.neg_neg]
    · rw [if_neg (by simpa using hn), Int.natAbs_of_nonneg (not_lt.mp hn)]

/-- A natural number other than zero is rounded to at least one, and to at least `2⁵³` if it is
that large. -/
theorem le_units_ofNat {n : Nat} (hn : n ≠ 0) :
    one ≤ (ofNat n).units ∧ (2 ^ 53 ≤ n → 2 ^ 53 * one ≤ (ofNat n).units) := by
  rcases Nat.lt_or_ge n (2 ^ 53) with hsmall | hlarge
  · rw [units_ofNat_of_lt hsmall]
    exact ⟨Nat.le_mul_of_pos_left _ (Nat.pos_of_ne_zero hn), fun h => Nat.mul_le_mul_right _ h⟩
  · have hunits := (of_largeRank_le (largeRank_le_ofNat hlarge)).2
    exact ⟨le_trans (Nat.le_mul_of_pos_left _ (by decide)) hunits, fun _ => hunits⟩

theorem isZero_ofNat {n : Nat} (hn : n ≠ 0) : (ofNat n).isZero = false := by
  rw [isZero, beq_eq_false_iff_ne]
  intro hzero
  have hunits := (le_units_ofNat hn).1
  rw [units_of_rank_eq_zero hzero] at hunits
  exact absurd hunits (Nat.not_le.mpr one_pos)

/-! ## Products and quotients -/

/-- **The product of natural numbers is rounded once.** -/
theorem rank_mul {x y : Binary64} {m n : Nat} (hx : x.units = m * one) (hy : y.units = n * one) :
    (x.mul y).rank = nearestRank (m * n * one) 1 := by
  have hproduct : x.units * y.units = m * n * one * one := by
    rw [hx, hy, Nat.mul_mul_mul_comm, ← Nat.mul_assoc]
  show nearestRank (x.units * y.units) one = _
  rw [hproduct, ← nearestRank_mul_right (m * n * one) 1 one_pos, Nat.one_mul]

/-- **The quotient of natural numbers is rounded once.** -/
theorem rank_div {x y : Binary64} {m n : Nat} (hx : x.units = m * one) (hy : y.units = n * one) :
    (x.div y).rank = nearestRank (m * one) n := by
  show nearestRank (x.units * one) y.units = _
  rw [hx, hy, nearestRank_mul_right _ _ one_pos]

/-- A product with a large factor is large if the other is at least one. -/
theorem largeRank_le_mul {x y : Binary64} (hx : one ≤ x.units) (hy : one ≤ y.units)
    (h : 2 ^ 53 * one ≤ x.units ∨ 2 ^ 53 * one ≤ y.units) : largeRank ≤ (x.mul y).rank := by
  refine largeRank_le_nearestRank one_pos ?_
  rcases h with h | h
  · exact Nat.mul_le_mul h hy
  · calc 2 ^ 53 * one * one = one * (2 ^ 53 * one) := Nat.mul_comm _ _
      _ ≤ x.units * y.units := Nat.mul_le_mul hx h

end Binary64

end Specimen.Number
