import Mathlib.Algebra.Order.Field.Basic
import Mathlib.Algebra.Order.Ring.Rat
import Specimen.Proofs.Number.Rounding

set_option autoImplicit false

/-! # What encodings denote

The 64 bits of a number, read as the format lays them down: a sign, eleven bits of a biased exponent
and 52 bits of a mantissa (`Encoding.sign`, `exponent`, `mantissa`). An encoding denotes a rational
number, an infinity or nothing (`Encoding.quantity`).

Numbers are otherwise handled by sign and rank and counted in units. The two readings agree
(`value_mul_one`): the rational number times the units of one is the number of units. So the value
of an encoding is an integer exactly if its number is (`quantity_eq_intCast_iff`).
-/

namespace Specimen.Number

namespace Encoding

/-! ## The parts of an encoding -/

/-- The first bit: the number is negative. -/
def sign (w : UInt64) : Bool := decide (w.toNat / 2 ^ 63 = 1)

/-- The eleven bits behind the sign: the exponent, with a bias. -/
def exponent (w : UInt64) : Nat := w.toNat / 2 ^ 52 % 2 ^ 11

/-- The last 52 bits: the digits of the significand behind the binary point. -/
def mantissa (w : UInt64) : Nat := w.toNat % 2 ^ 52

/-- The exponent all of whose bits are set: it marks what is no finite number. -/
def lastExponent : Nat := 2047

/-! ## Values -/

/-- What an encoding can denote. -/
inductive Quantity
  /-- No number. -/
  | notANumber
  /-- An infinity of either sign. -/
  | infinite (negative : Bool)
  /-- A rational number. -/
  | finite (value : ℚ)

/-- The rational number of an encoding whose exponent is not the last one. The significand has a one
in front of its binary point, but for the numbers with the least exponent, which have a zero
there. -/
def value (w : UInt64) : ℚ :=
  (if sign w then -1 else 1) *
    (if exponent w = 0 then (mantissa w : ℚ) * 2 ^ (-1074 : ℤ)
      else (2 ^ 52 + (mantissa w : ℚ)) * 2 ^ ((exponent w : ℤ) - 1075))

/-- What an encoding denotes. -/
def quantity (w : UInt64) : Quantity :=
  if exponent w = lastExponent then
    if mantissa w = 0 then .infinite (sign w) else .notANumber
  else .finite (value w)

end Encoding

open Encoding

/-! ## The number of an encoding -/

namespace Binary64

variable (w : UInt64)

theorem negative_ofBits : (ofBits w).negative = sign w := by
  have hw : w.toNat < 2 ^ 64 := w.toNat_lt
  have hfirst : 0x8000000000000000 ≤ w.toNat ↔ w.toNat / 2 ^ 63 = 1 := by omega
  exact decide_eq_decide.mpr hfirst

theorem rank_ofBits : (ofBits w).rank = exponent w * fractionSize + mantissa w := by
  show w.toNat % 0x8000000000000000
    = w.toNat / 2 ^ 52 % 2 ^ 11 * 0x10000000000000 + w.toNat % 2 ^ 52
  omega

theorem mantissa_lt : mantissa w < fractionSize := Nat.mod_lt _ (by decide)

theorem exponent_le : exponent w ≤ lastExponent :=
  Nat.le_of_lt_succ (Nat.mod_lt _ (by decide))

theorem exponentField_ofBits : (ofBits w).exponentField = exponent w := by
  have hmantissa := mantissa_lt w
  rw [exponentField, rank_ofBits]
  apply Nat.div_eq_of_lt_le
  · exact Nat.le_add_right _ _
  · rw [Nat.succ_mul]
    omega

theorem mantissa_ofBits : (ofBits w).rank % fractionSize = mantissa w := by
  rw [rank_ofBits, Nat.mul_add_mod_self_right, Nat.mod_eq_of_lt (mantissa_lt w)]

theorem isNaN_ofBits :
    (ofBits w).isNaN = true ↔ exponent w = lastExponent ∧ mantissa w ≠ 0 := by
  have hmantissa := mantissa_lt w
  have hexponent := exponent_le w
  simp only [isNaN, decide_eq_true_eq, rank_ofBits, infinityRank, fractionSize, lastExponent] at *
  omega

theorem isInfinite_ofBits :
    (ofBits w).isInfinite = true ↔ exponent w = lastExponent ∧ mantissa w = 0 := by
  have hmantissa := mantissa_lt w
  have hexponent := exponent_le w
  simp only [isInfinite, beq_iff_eq, rank_ofBits, infinityRank, fractionSize, lastExponent] at *
  omega

theorem isFinite_ofBits : (ofBits w).IsFinite ↔ exponent w ≠ lastExponent := by
  have hmantissa := mantissa_lt w
  have hexponent := exponent_le w
  simp only [IsFinite, rank_ofBits, infinityRank, fractionSize, lastExponent] at *
  omega

/-! ## The value of an encoding -/

/-- A power of two with a bias, in units. -/
theorem zpow_mul_one (e : ℤ) {shift : Nat} (h : e + 1074 = shift) :
    (2 : ℚ) ^ e * (one : ℚ) = 2 ^ shift := by
  obtain ⟨places, hone, hplaces⟩ : ∃ places : Nat, one = 2 ^ places ∧ (places : ℤ) = 1074 :=
    ⟨1074, one_eq, rfl⟩
  have hsum : e + (places : ℤ) = shift := by omega
  rw [hone, Nat.cast_pow, Nat.cast_ofNat, ← zpow_natCast, ← zpow_add₀ (by decide), hsum,
    zpow_natCast]

theorem units_ofBits :
    ((ofBits w).units : ℚ)
      = (if exponent w = 0 then (mantissa w : ℚ) * 2 ^ (-1074 : ℤ)
          else (2 ^ 52 + (mantissa w : ℚ)) * 2 ^ ((exponent w : ℤ) - 1075)) * one := by
  have hshift : (ofBits w).shift = exponent w - 1 := by
    rw [shift, exponentField_ofBits]
  have hunits : ((ofBits w).units : ℚ) = (ofBits w).significand * 2 ^ (exponent w - 1) := by
    rw [← hshift]
    exact_mod_cast rfl
  rw [hunits, significand, exponentField_ofBits, mantissa_ofBits]
  by_cases hsubnormal : exponent w = 0
  · have hbias : (-1074 : ℤ) + 1074 = (0 : Nat) := by decide
    rw [if_pos hsubnormal, if_pos hsubnormal, mul_assoc, zpow_mul_one _ hbias, hsubnormal]
  · have hbias : (exponent w : ℤ) - 1075 + 1074 = (exponent w - 1 : Nat) := by omega
    rw [if_neg hsubnormal, if_neg hsubnormal, mul_assoc, zpow_mul_one _ hbias, Nat.cast_add]
    rfl

/-- **The value of an encoding is its number's, counted in units.** -/
theorem value_mul_one : value w * one = (ofBits w).signedUnits := by
  rw [value, mul_assoc, ← units_ofBits, signedUnits, negative_ofBits]
  cases sign w <;> simp

/-! ## Numbers by what their encodings denote -/

theorem quantity_eq_notANumber_iff : quantity w = .notANumber ↔ (ofBits w).isNaN = true := by
  rw [isNaN_ofBits, quantity]
  by_cases hlast : exponent w = lastExponent
  · by_cases hmantissa : mantissa w = 0 <;> simp [hlast, hmantissa]
  · simp [hlast]

theorem quantity_eq_infinite_iff {negative : Bool} :
    quantity w = .infinite negative ↔ ofBits w = infinity negative := by
  have hinfinite : quantity w = .infinite negative ↔
      (ofBits w).isInfinite = true ∧ sign w = negative := by
    rw [isInfinite_ofBits, quantity]
    by_cases hlast : exponent w = lastExponent
    · by_cases hmantissa : mantissa w = 0 <;> simp [hlast, hmantissa]
    · simp [hlast]
  rw [hinfinite, ← negative_ofBits]
  constructor
  · rintro ⟨h, rfl⟩
    exact eq_infinity_of_isInfinite h
  · intro h
    rw [h]
    exact ⟨rfl, rfl⟩

theorem quantity_of_isFinite (h : (ofBits w).IsFinite) : quantity w = .finite (value w) :=
  if_neg ((isFinite_ofBits w).mp h)

theorem isFinite_of_quantity {q : ℚ} (h : quantity w = .finite q) : (ofBits w).IsFinite := by
  rw [isFinite_ofBits]
  intro hlast
  rw [quantity, if_pos hlast] at h
  split_ifs at h

/-- An encoding denotes an integer exactly if its number is this integer. -/
theorem quantity_eq_intCast_iff {k : ℤ} :
    quantity w = .finite k ↔ (ofBits w).IsInteger k := by
  have hone : (one : ℚ) ≠ 0 := Nat.cast_ne_zero.mpr one_pos.ne'
  have hvalue : value w = k ↔ (ofBits w).signedUnits = k * one := by
    rw [← mul_left_inj' hone, value_mul_one, ← Int.cast_natCast one, ← Int.cast_mul,
      Rat.intCast_inj]
  constructor
  · intro h
    have hfinite := isFinite_of_quantity w h
    rw [quantity_of_isFinite w hfinite, Quantity.finite.injEq] at h
    exact ⟨hfinite, hvalue.mp h⟩
  · intro h
    rw [quantity_of_isFinite w h.1, hvalue.mpr h.2]

/-- An encoding denotes a number that is no integer exactly if its number is finite and none. -/
theorem exists_quantity_eq_finite_iff :
    (∃ q : ℚ, quantity w = .finite q ∧ ∀ n : ℤ, q ≠ n) ↔
      (ofBits w).IsFinite ∧ ∀ k : ℤ, ¬ (ofBits w).IsInteger k := by
  constructor
  · rintro ⟨q, hq, hfraction⟩
    refine ⟨isFinite_of_quantity w hq, fun k hk => hfraction k ?_⟩
    rw [(quantity_eq_intCast_iff w).mpr hk] at hq
    exact (Quantity.finite.inj hq).symm
  · rintro ⟨hfinite, hfraction⟩
    have hvalue := quantity_of_isFinite w hfinite
    refine ⟨value w, hvalue, fun n hn => hfraction n ?_⟩
    rw [hn] at hvalue
    exact (quantity_eq_intCast_iff w).mp hvalue

end Binary64

end Specimen.Number
