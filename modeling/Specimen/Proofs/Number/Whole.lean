import Mathlib.Algebra.Order.Group.Unbundled.Int
import Mathlib.Data.Int.Order.Basic
import Specimen.Number.Binary64

set_option autoImplicit false

/-! # Whole numbers of the binary64 format

When a binary64 number is an integer, by its exact value: finite numbers are counted in units of
`2⁻¹⁰⁷⁴`, and `x` is the integer `k` if it has `k` times as many units as one has
(`Binary64.IsInteger`).
-/

namespace Specimen.Number.Binary64

/-- The number is neither infinite nor a value that is not a number. -/
def IsFinite (x : Binary64) : Prop := x.rank < infinityRank

/-- The number is finite and has the value `k`. -/
def IsInteger (x : Binary64) (k : Int) : Prop := x.IsFinite ∧ x.signedUnits = k * one

theorem one_pos : 0 < one := by
  unfold one
  generalize 1074 = n
  exact Nat.two_pow_pos n

theorem isFinite_iff {x : Binary64} :
    x.IsFinite ↔ x.isNaN = false ∧ x.isInfinite = false := by
  simp only [IsFinite, isNaN, isInfinite, decide_eq_false_iff_not, beq_eq_false_iff_ne]
  omega

/-- An infinity is known by its sign. -/
theorem eq_infinity_of_isInfinite {x : Binary64} (h : x.isInfinite = true) :
    x = infinity x.negative := by
  obtain ⟨s, r, hr⟩ := x
  obtain rfl : r = infinityRank := by simpa [isInfinite] using h
  rfl

/-- A finite number has no fractional part exactly if it is an integer. -/
theorem isWhole_iff {x : Binary64} (hx : x.IsFinite) :
    x.isWhole = true ↔ ∃ k : Int, x.IsInteger k := by
  have hdvd : x.isWhole = true ↔ (one : Int) ∣ x.signedUnits := by
    rw [isWhole, beq_iff_eq, ← Nat.dvd_iff_mod_eq_zero, ← Int.natCast_dvd_natCast, signedUnits]
    cases x.negative
    · rfl
    · exact (Int.dvd_neg (a := one)).symm
  rw [hdvd]
  constructor
  · rintro ⟨k, hk⟩
    exact ⟨k, hx, by rw [hk, Int.mul_comm]⟩
  · rintro ⟨k, _, hk⟩
    exact ⟨k, by rw [hk, Int.mul_comm]⟩

/-- An integer is at least a natural number other than zero exactly if the number is not negative
and has as many units. -/
theorem IsInteger.natCast_le_iff {x : Binary64} {k : Int} (hk : x.IsInteger k) {n : Nat}
    (hn : 0 < n) : (n : Int) ≤ k ↔ x.negative = false ∧ n * one ≤ x.units := by
  have hpos : (0 : Int) < one := Int.natCast_pos.mpr one_pos
  have hscale : (n : Int) ≤ k ↔ ((n * one : Nat) : Int) ≤ x.signedUnits := by
    rw [hk.2, Int.natCast_mul]
    exact (Int.mul_le_mul_right hpos).symm
  rw [hscale, signedUnits]
  cases x.negative
  · simp only [Bool.false_eq_true, if_false, true_and, Int.ofNat_le]
  · -- a negative number has no more than zero units, and `n * one` is more than that
    have hnone : 0 < n * one := Nat.mul_pos hn one_pos
    simp only [if_true, Bool.true_eq_false, false_and, iff_false]
    omega

end Specimen.Number.Binary64
