import Specimen.Number.Shortest
import Specimen.Proofs.Number.Nearest

set_option autoImplicit false

/-! # Shortest numerals read back

The numeral that is written for a number has the number as its nearest one (`nearest_shortest`).
The search for it only takes numerals that read back, so what has to be proved is that nothing goes
wrong when none is found: the exact expansion of the number is taken then, and it reads back because
rounding does not change the numbers of the format (`nearestRank_units`).

The nearest number depends on the value of a numeral alone, not on how digits and exponent share it
(`nearest_congr`). For that the shortcuts for very large and very small numerals have to agree with
rounding (`nearest_eq_ofQuotient`).
-/

namespace Specimen.Number

/-! ## Numbers of the format -/

/-- **Rounding does not change the numbers of the format.** -/
theorem nearestRank_units {x : Binary64} (hx : x.rank ≤ Binary64.infinityRank) :
    nearestRank x.units 1 = x.rank := by
  have hsplit : x.exponentField * Binary64.fractionSize + x.rank % Binary64.fractionSize = x.rank :=
    Nat.div_add_mod' x.rank Binary64.fractionSize
  have hfraction : x.rank % Binary64.fractionSize < Binary64.fractionSize :=
    Nat.mod_lt _ (by decide)
  by_cases hfield : x.exponentField = 0
  · -- a subnormal number is its own significand
    have hunits : x.units = x.rank := by
      rw [Binary64.units, Binary64.significand, if_pos hfield, Binary64.shift, hfield]
      rw [hfield] at hsplit
      show x.rank % Binary64.fractionSize * 1 = x.rank
      omega
    have hsmall : x.rank < Binary64.fractionSize := by
      rw [hfield] at hsplit
      omega
    have hlog : Nat.log2 x.rank - 52 = 0 := by
      rcases Nat.eq_zero_or_pos x.rank with hzero | hpos
      · rw [hzero]
        rfl
      · have hlog : Nat.log2 x.rank < 52 := (Nat.log2_lt hpos.ne').mpr hsmall
        omega
    rw [hunits]
    unfold nearestRank
    rw [Nat.div_one, hlog]
    show min _ (0 * _ + roundedQuotient x.rank (1 * 1)) = _
    rw [Nat.one_mul, roundedQuotient_one]
    omega
  · obtain ⟨shift, hshift⟩ := Nat.exists_eq_succ_of_ne_zero hfield
    obtain ⟨q, hq⟩ : ∃ q, q = Binary64.fractionSize + x.rank % Binary64.fractionSize := ⟨_, rfl⟩
    have hunits : x.units = q * 2 ^ shift := by
      rw [Binary64.units, Binary64.significand, if_neg hfield, Binary64.shift, hshift, ← hq]
      rfl
    have hlog : Nat.log2 q = 52 := by
      have hsize : Binary64.fractionSize = 2 ^ 52 := rfl
      refine (Nat.log2_eq_iff ?_).mpr ⟨?_, ?_⟩ <;> omega
    have hne : q ≠ 0 := by
      rintro rfl
      cases hlog
    have hrounded : roundedQuotient (q * 2 ^ shift) (1 * 2 ^ shift) = q := by
      rw [roundedQuotient_mul_right _ _ (Nat.two_pow_pos _), roundedQuotient_one]
    rw [hunits]
    unfold nearestRank
    rw [Nat.div_one, log2_mul_two_pow hne, hlog, Nat.add_sub_cancel_left]
    show min _ (_ + roundedQuotient (q * 2 ^ shift) (1 * 2 ^ shift)) = _
    have hrank : shift * Binary64.fractionSize + q = x.rank := by
      rw [← hsplit, hq, hshift, Nat.succ_mul, Nat.add_assoc]
    rw [hrounded, hrank]
    exact Nat.min_eq_right hx

/-- Rounding sees only the ratio. -/
theorem nearestRank_congr {num den num' den' : Nat} (hden : 0 < den) (hden' : 0 < den')
    (h : num * den' = num' * den) : nearestRank num den = nearestRank num' den' := by
  rw [← nearestRank_mul_right num den hden', ← nearestRank_mul_right num' den' hden, h,
    Nat.mul_comm den den']

/-- A quotient below one half is rounded to zero. -/
theorem nearestRank_of_small {num den : Nat} (h : 2 * num < den) : nearestRank num den = 0 := by
  have hlt : num < den := by omega
  have hrounded : roundedQuotient num den = 0 := by
    unfold roundedQuotient
    rw [Nat.div_eq_of_lt hlt, Nat.mod_eq_of_lt hlt]
    have hnot : ¬ den < 2 * num := by omega
    simp [hnot]
  unfold nearestRank
  rw [Nat.div_eq_of_lt hlt]
  show min _ (0 * _ + roundedQuotient num (den * 1)) = 0
  rw [Nat.mul_one, hrounded]
  rfl

/-- A number from `2²⁰⁹⁹` units on is rounded to infinity. -/
theorem nearestRank_of_large {num : Nat} (digits : Nat) (hdigits : 2099 ≤ digits)
    (h : 2 ^ digits ≤ num) :
    nearestRank num 1 = Binary64.infinityRank := by
  have hne : num ≠ 0 := (Nat.lt_of_lt_of_le (Nat.two_pow_pos _) h).ne'
  have hlog : digits ≤ Nat.log2 num := (Nat.le_log2 hne).mpr h
  have hshift : Binary64.infinityRank ≤ (Nat.log2 num - 52) * Binary64.fractionSize := by
    have hinfinity : Binary64.infinityRank = 2047 * Binary64.fractionSize := rfl
    rw [hinfinity]
    exact Nat.mul_le_mul_right _ (by omega)
  unfold nearestRank
  rw [Nat.div_one]
  exact Nat.min_eq_left (hshift.trans (Nat.le_add_right _ _))

namespace Decimal

/-! ## Numerals of the same value -/

/-- **The nearest number is a rounded quotient**, for very large and very small numerals too. -/
theorem nearest_eq_ofQuotient (d : Decimal) :
    d.nearest = Binary64.ofQuotient d.negative (d.digits * 10 ^ d.exponent.toNat)
      (10 ^ (-d.exponent).toNat) := by
  refine Binary64.ext (negative_nearest d) ?_
  show d.nearest.rank
    = nearestRank (d.digits * 10 ^ d.exponent.toNat * Binary64.one) (10 ^ (-d.exponent).toNat)
  by_cases hdigits : d.digits = 0
  · rw [rank_nearest_of_digits_eq_zero hdigits, hdigits, Nat.zero_mul, Nat.zero_mul,
      nearestRank_zero]
  by_cases hexponent : 0 ≤ d.exponent
  · have hden : (-d.exponent).toNat = 0 := by omega
    rw [hden, nearest, if_neg hdigits, if_pos hexponent]
    by_cases hlarge : (largestPower : Int) ≤ d.exponent
    · rw [if_pos hlarge]
      have hten : 2 ^ 1025 ≤ 10 ^ largestPower := by decide +kernel
      have hpower : 10 ^ largestPower ≤ 10 ^ d.exponent.toNat :=
        Nat.pow_le_pow_right (by decide) (by omega)
      obtain ⟨large, hlarge⟩ : ∃ n, n = 1025 := ⟨_, rfl⟩
      obtain ⟨unit, hone, hunit⟩ : ∃ n, Binary64.one = 2 ^ n ∧ n = 1074 :=
        ⟨_, Binary64.one_eq, rfl⟩
      rw [← hlarge] at hten
      refine (nearestRank_of_large (large + unit) (by omega) ?_).symm
      calc 2 ^ (large + unit) = 2 ^ large * Binary64.one := by
            rw [Nat.pow_add, hone]
        _ ≤ 10 ^ d.exponent.toNat * Binary64.one := Nat.mul_le_mul_right _ (hten.trans hpower)
        _ ≤ d.digits * 10 ^ d.exponent.toNat * Binary64.one :=
          Nat.mul_le_mul_right _ (Nat.le_mul_of_pos_left _ (Nat.pos_of_ne_zero hdigits))
    · rw [if_neg hlarge]
      rfl
  · have hnum : d.exponent.toNat = 0 := by omega
    rw [hnum, Nat.pow_zero, Nat.mul_one, nearest, if_neg hdigits, if_neg hexponent]
    dsimp only
    by_cases hsmall : Nat.log2 d.digits / 3 + 1 + smallestPower ≤ (-d.exponent).toNat
    · rw [if_pos hsmall]
      refine (nearestRank_of_small ?_).symm
      -- three binary digits are fewer than one decimal digit
      obtain ⟨count, hcount⟩ : ∃ count, count = Nat.log2 d.digits / 3 + 1 := ⟨_, rfl⟩
      have hlog : d.digits < 2 ^ (Nat.log2 d.digits + 1) := ((Nat.log2_eq_iff hdigits).mp rfl).2
      have hdecimal : d.digits < 10 ^ count :=
        calc d.digits < 2 ^ (Nat.log2 d.digits + 1) := hlog
          _ ≤ 2 ^ (3 * count) := Nat.pow_le_pow_right (by decide) (by omega)
          _ = 8 ^ count := Nat.pow_mul 2 3 count
          _ ≤ 10 ^ count := Nat.pow_le_pow_left (by decide) count
      have htwo : 2 * 2 ^ 1074 ≤ 10 ^ smallestPower := by decide +kernel
      calc 2 * (d.digits * Binary64.one)
        _ = d.digits * (2 * 2 ^ 1074) := by rw [Binary64.one_eq, Nat.mul_left_comm]
        _ ≤ d.digits * 10 ^ smallestPower := Nat.mul_le_mul_left _ htwo
        _ < 10 ^ count * 10 ^ smallestPower :=
          Nat.mul_lt_mul_of_pos_right hdecimal (Nat.pow_pos (by decide))
        _ = 10 ^ (count + smallestPower) := (Nat.pow_add 10 count smallestPower).symm
        _ ≤ 10 ^ (-d.exponent).toNat := Nat.pow_le_pow_right (by decide) (by omega)
    · rw [if_neg hsmall]
      rfl

/-- **Numerals of the same value have the same nearest number.** -/
theorem nearest_congr {d d' : Decimal} (hnegative : d.negative = d'.negative)
    (h : d.digits * 10 ^ d.exponent.toNat * 10 ^ (-d'.exponent).toNat
      = d'.digits * 10 ^ d'.exponent.toNat * 10 ^ (-d.exponent).toNat) :
    d.nearest = d'.nearest := by
  rw [nearest_eq_ofQuotient, nearest_eq_ofQuotient]
  refine Binary64.ext hnegative ?_
  have hpower : ∀ n, 0 < 10 ^ n := fun n => Nat.pow_pos (by decide)
  refine nearestRank_congr (hpower _) (hpower _) ?_
  show d.digits * 10 ^ d.exponent.toNat * Binary64.one * 10 ^ (-d'.exponent).toNat
    = d'.digits * 10 ^ d'.exponent.toNat * Binary64.one * 10 ^ (-d.exponent).toNat
  rw [Nat.mul_right_comm, h, Nat.mul_right_comm]

/-- Zeros behind the digits may be left to the exponent. -/
theorem nearest_mul_pow (negative : Bool) (digits k : Nat) (exponent : Int) :
    (⟨negative, digits * 10 ^ k, exponent⟩ : Decimal).nearest
      = (⟨negative, digits, exponent + k⟩ : Decimal).nearest := by
  refine nearest_congr rfl ?_
  show digits * 10 ^ k * 10 ^ exponent.toNat * 10 ^ (-(exponent + k)).toNat
    = digits * 10 ^ (exponent + k).toNat * 10 ^ (-exponent).toNat
  have hsum : k + exponent.toNat + (-(exponent + k)).toNat
      = (exponent + k).toNat + (-exponent).toNat := by omega
  simp only [Nat.mul_assoc, ← Nat.pow_add]
  rw [← hsum, Nat.add_assoc]

end Decimal

/-! ## Shortest numerals -/

namespace Binary64

variable {x : Binary64}

theorem one_eq_two_pow : one = 2 ^ expansionPlaces := by
  unfold one expansionPlaces
  generalize 1074 = n
  rfl

theorem expansion_eq (x : Binary64) : x.expansion = x.units * 5 ^ expansionPlaces := by
  unfold expansion
  generalize expansionPlaces = n
  rfl

theorem expansion_mul_one (x : Binary64) : x.expansion * one = x.units * 10 ^ expansionPlaces := by
  rw [expansion_eq, one_eq_two_pow]
  generalize expansionPlaces = n
  rw [Nat.mul_assoc, ← Nat.mul_pow]

/-- A numeral with the exact value of a number reads back. -/
theorem nearest_of_mul_one (hx : x.rank ≤ infinityRank) {digits places : Nat}
    (h : digits * one = x.units * 10 ^ places) :
    (⟨x.negative, digits, -(places : Int)⟩ : Decimal).nearest = x := by
  have hplaces : (-(-places : Int)).toNat = places := by omega
  have hnone : (-places : Int).toNat = 0 := by omega
  have hscaled := nearestRank_mul_right x.units 1 (Nat.pow_pos (n := places) (by decide : 0 < 10))
  refine ext (Decimal.negative_nearest _) ?_
  rw [Decimal.nearest_eq_ofQuotient]
  simp only [ofQuotient, ofUnits, hplaces, hnone, Nat.pow_zero, Nat.mul_one]
  rw [h, ← nearestRank_units hx, ← hscaled, Nat.one_mul]

/-- The exact expansion of a number reads back. -/
theorem nearest_expansion (hx : x.rank ≤ infinityRank) :
    (⟨x.negative, x.expansion, -expansionPlaces⟩ : Decimal).nearest = x :=
  nearest_of_mul_one hx (expansion_mul_one x)

/-- **The numeral that is written for a number reads back.** -/
theorem nearest_shortest (hx : x.rank ≤ infinityRank) : x.shortest.nearest = x := by
  unfold shortest
  by_cases hzero : x.rank = 0
  · rw [if_pos (by simp [isZero, hzero])]
    refine ext rfl ?_
    rw [hzero]
    rfl
  · rw [if_neg (by simp [isZero, hzero])]
    dsimp only
    cases hfind : ((List.range 17).flatMap fun n => x.neighbours (n + 1)).find?
        fun d => d.nearest == x with
    | none => exact nearest_expansion hx
    | some d => simpa using List.find?_some hfind

theorem negative_shortest (hx : x.rank ≤ infinityRank) : x.shortest.negative = x.negative := by
  rw [← Decimal.negative_nearest, nearest_shortest hx]

/-- Only for zero no digit but zeros is written. -/
theorem digits_shortest_ne_zero (hx : x.rank ≤ infinityRank) (hzero : x.isZero = false) :
    x.shortest.digits ≠ 0 := by
  intro hdigits
  have hrank := Decimal.rank_nearest_of_digits_eq_zero hdigits
  rw [nearest_shortest hx] at hrank
  simp [isZero, hrank] at hzero

end Binary64

end Specimen.Number
