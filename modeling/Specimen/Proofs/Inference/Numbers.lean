import Specimen.Proofs.Inference.Conformance
import Specimen.Proofs.Number.Encoding
import Specimen.Proofs.Number.Integral

set_option autoImplicit false

/-! # Types of encoded numbers

The type of a number is defined through its units. Here it is said in two other ways. One needs
operations of the format only: the number is compared with itself rounded to an integer, and what is
left over is converted to 64 bits and compared with the threshold (`typeByRounding`). The other one
looks at the exact value that the 64 bits of the number denote.

`numberType_ofBits` says that all three agree on all encodings, and that the type goes up with the
value as far as it is an integer.
-/

namespace Specimen.Inference

open Specimen.Number Specimen.Schema
open Specimen.Number.Encoding (Quantity quantity)

/-! ## By rounding -/

/-- The type of a number as operations of the format tell it. A number that rounding to an integer
changes is fractional, and so is what is not even the same as itself. What is left is converted to
an integer of 64 bits, which may be less or more than the number. -/
def typeByRounding (x : Binary64) : FieldType :=
  if !x.same x.round then .double
  else if (longThreshold : Int) ≤ x.round.toInt64 then .long
  else .integer

/-- **Rounding and converting tell the type**, although what is converted may be out of range. -/
theorem typeByRounding_eq_numberType (x : Binary64) : typeByRounding x = numberType x := by
  have hsame := x.same_round_iff
  cases hnan : x.isNaN with
  | true =>
      have hdiffers : x.same x.round = false := by simpa [hnan] using hsame
      simp [typeByRounding, numberType, hdiffers, hnan]
  | false =>
      cases hinfinite : x.isInfinite with
      | true =>
          -- an infinity is converted to the last integer on its side
          have hround : x.round = x := by simp [Binary64.round, hinfinite]
          cases hnegative : x.negative <;>
            simp [typeByRounding, numberType, hround, hnan, hinfinite, hnegative,
              Binary64.same_self, Binary64.toInt64, Binary64.leastInt64, Binary64.greatestInt64, longThreshold]
      | false =>
          have hx : x.IsFinite := Binary64.isFinite_iff.mpr ⟨hnan, hinfinite⟩
          cases hwhole : x.isWhole with
          | false =>
              have hdiffers : x.same x.round = false := by
                simpa [hnan, hinfinite, hwhole] using hsame
              simp [typeByRounding, numberType, hdiffers, hnan, hinfinite, hwhole]
          | true =>
              obtain ⟨k, hk⟩ := (Binary64.isWhole_iff hx).mp hwhole
              have hlong : (longThreshold : Int) ≤ x.toInt64 ↔ 2147483647 ≤ k := by
                rw [Binary64.toInt64_of_isInteger hk]
                exact Binary64.le_saturate_iff (by decide) (by decide)
              rw [numberType_of_isInteger hk, typeByRounding, Binary64.round_of_isWhole hx hwhole,
                Binary64.same_self, hnan, Bool.not_false, Bool.not_true, if_neg Bool.false_ne_true,
                integerType]
              exact if_congr hlong rfl rfl

/-! ## By the exact value -/

variable {x : Binary64}

theorem numberType_eq_double_iff : numberType x = .double ↔ IsDoubleValue x := by
  constructor
  · intro h
    have haccepts := acceptsNumber_numberType x
    rw [h] at haccepts
    cases haccepts with
    | double hx => exact hx
  · rintro (hnan | ⟨hx, hfraction⟩)
    · rw [numberType, if_pos hnan]
    · obtain ⟨hnan, hinfinite⟩ := Binary64.isFinite_iff.mp hx
      have hwhole : x.isWhole = false := by
        rw [← Bool.not_eq_true, Binary64.isWhole_iff hx, not_exists]
        exact hfraction
      simp [numberType, hnan, hinfinite, hwhole]

theorem numberType_eq_long_iff : numberType x = .long ↔ IsLongValue x := by
  constructor
  · intro h
    have haccepts := acceptsNumber_numberType x
    rw [h] at haccepts
    cases haccepts with
    | long hx => exact hx
  · rintro (rfl | ⟨k, hk, hlong⟩)
    · rfl
    · rw [numberType_of_isInteger hk, integerType, if_pos hlong]

theorem numberType_eq_integer_iff : numberType x = .integer ↔ IsIntegerValue x := by
  constructor
  · intro h
    have haccepts := acceptsNumber_numberType x
    rw [h] at haccepts
    cases haccepts with
    | integer hx => exact hx
  · rintro (rfl | ⟨k, hk, hsmall⟩)
    · rfl
    · rw [numberType_of_isInteger hk, integerType, if_neg (not_le.mpr hsmall)]

/-- **The type of a number is decided by the exact value of its encoding**, which is read off its
sign, its exponent and its mantissa:

* it is `double` if the encoding denotes no number or a number that is no integer;
* it is `long` if the encoding denotes the positive infinity or an integer from `2³¹ - 1` on;
* it is `integer` if the encoding denotes the negative infinity or an integer below;
* an encoding that denotes an integer no less than that of another one is not `integer` if the other
  one is `long`.

Rounding the number to an integer and converting it to 64 bits gives the same type. -/
theorem numberType_ofBits (w : UInt64) :
    (numberType (Binary64.ofBits w) = .double ↔
      quantity w = .notANumber ∨ ∃ q : ℚ, quantity w = .finite q ∧ ∀ n : ℤ, q ≠ n) ∧
    (numberType (Binary64.ofBits w) = .long ↔
      quantity w = .infinite false ∨ ∃ n : ℤ, quantity w = .finite n ∧ 2147483647 ≤ n) ∧
    (numberType (Binary64.ofBits w) = .integer ↔
      quantity w = .infinite true ∨ ∃ n : ℤ, quantity w = .finite n ∧ n < 2147483647) ∧
    (∀ (w' : UInt64) (n n' : ℤ), quantity w = .finite n → quantity w' = .finite n' → n ≤ n' →
      numberType (Binary64.ofBits w) = .long → numberType (Binary64.ofBits w') = .long) ∧
    numberType (Binary64.ofBits w) = typeByRounding (Binary64.ofBits w) := by
  refine ⟨?_, ?_, ?_, ?_, (typeByRounding_eq_numberType _).symm⟩
  · rw [numberType_eq_double_iff, IsDoubleValue, Binary64.quantity_eq_notANumber_iff,
      Binary64.exists_quantity_eq_finite_iff]
  · simp only [numberType_eq_long_iff, IsLongValue, Binary64.quantity_eq_infinite_iff,
      Binary64.quantity_eq_intCast_iff]
  · simp only [numberType_eq_integer_iff, IsIntegerValue, Binary64.quantity_eq_infinite_iff,
      Binary64.quantity_eq_intCast_iff]
  · intro w' n n' hn hn' hle hlong
    rw [Binary64.quantity_eq_intCast_iff] at hn hn'
    rw [numberType_of_isInteger hn, integerType] at hlong
    rw [numberType_of_isInteger hn', integerType]
    have hthreshold : 2147483647 ≤ n := by
      by_contra hsmall
      rw [if_neg hsmall] at hlong
      cases hlong
    exact if_pos (hthreshold.trans hle)

/-- The threshold, and an integer that needs more than 64 bits. -/
theorem numberType_ofBits_beyondInt64 :
    quantity 0x41DFFFFFFFC00000 = .finite (2147483647 : ℤ) ∧
      quantity 0x43E0000000000000 = .finite (9223372036854775808 : ℤ) ∧
      numberType (Binary64.ofBits 0x41DFFFFFFFC00000) = .long ∧
      numberType (Binary64.ofBits 0x43E0000000000000) = .long := by
  have hn : quantity 0x41DFFFFFFFC00000 = .finite (2147483647 : ℤ) := by
    refine (Binary64.quantity_eq_intCast_iff _).mpr ⟨?_, by decide +kernel⟩
    exact Binary64.isFinite_iff.mpr (by decide +kernel)
  have hn' : quantity 0x43E0000000000000 = .finite (9223372036854775808 : ℤ) := by
    refine (Binary64.quantity_eq_intCast_iff _).mpr ⟨?_, by decide +kernel⟩
    exact Binary64.isFinite_iff.mpr (by decide +kernel)
  obtain ⟨_, hlong, _, hmonotone, _⟩ := numberType_ofBits 0x41DFFFFFFFC00000
  have htype := hlong.mpr (Or.inr ⟨_, hn, le_rfl⟩)
  exact ⟨hn, hn', htype, hmonotone _ _ _ hn hn' (by decide) htype⟩

end Specimen.Inference
