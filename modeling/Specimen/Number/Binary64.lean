set_option autoImplicit false

/-! # The binary64 numbers

A binary64 number is a sign and a *rank*: the nonnegative numbers of the format, in increasing
order from zero over the subnormal and normal numbers to infinity, have the ranks
`0, 1, 2, …, infinityRank`, and the larger ranks are those of the values that are not a number.
Sign and rank are the first bit and the other 63 bits of the interchange encoding.

All finite numbers are multiples of `2⁻¹⁰⁷⁴`. The number of these *units* in a number's
magnitude is a natural number (`Binary64.units`), so arithmetic on binary64 numbers is exact
arithmetic on units followed by one rounding (`nearestRank`): to the nearest number of the
format and, of two equally near ones, to the one with an even last place.
-/

namespace Specimen.Number

/-! ## The encoding -/

/-- A number of the binary64 format, as its encoding's sign bit and its other 63 bits. -/
structure Binary64 where
  /-- The sign bit. -/
  negative : Bool
  /-- The position among the nonnegative numbers. -/
  rank : Nat
  /-- A rank fills at most 63 bits. -/
  rank_lt : rank < 0x8000000000000000
  deriving DecidableEq

namespace Binary64

/-- The rank of infinity: all bits of the exponent are set and none of the fraction's. -/
def infinityRank : Nat := 0x7FF0000000000000

/-- The number with a given encoding. -/
def ofBits (w : UInt64) : Binary64 :=
  ⟨decide (0x8000000000000000 ≤ w.toNat), w.toNat % 0x8000000000000000, Nat.mod_lt _ (by decide)⟩

/-- The encoding of a number. -/
def bits (x : Binary64) : Nat := (if x.negative then 0x8000000000000000 else 0) + x.rank

/-- The value is not a number. -/
def isNaN (x : Binary64) : Bool := infinityRank < x.rank

/-- The value is an infinity of either sign. -/
def isInfinite (x : Binary64) : Bool := x.rank == infinityRank

/-- The value is a zero of either sign. -/
def isZero (x : Binary64) : Bool := x.rank == 0

/-- The number with the other sign. -/
def neg (x : Binary64) : Binary64 := { x with negative := !x.negative }

/-- The number without its sign. -/
def abs (x : Binary64) : Binary64 := { x with negative := false }

/-- Reading an encoding and writing it gives the encoding back. -/
theorem bits_ofBits (w : UInt64) : (ofBits w).bits = w.toNat := by
  have hw : w.toNat < 2 ^ 64 := w.toNat_lt
  unfold ofBits bits
  by_cases h : 0x8000000000000000 ≤ w.toNat
  · simp only [h, decide_true, if_true]; omega
  · simp only [h, decide_false, Bool.false_eq_true, if_false]; omega

/-! ## Values in units -/

/-- The binary digits of a number's significand after the first. -/
def fractionSize : Nat := 0x10000000000000

/-- Units in one: all finite numbers are multiples of `2⁻¹⁰⁷⁴`. -/
def one : Nat := Nat.pow 2 1074

/-- The biased exponent of an encoding. -/
def exponentField (x : Binary64) : Nat := x.rank / fractionSize

/-- The significand as a whole number: subnormal numbers have no hidden digit. -/
def significand (x : Binary64) : Nat :=
  if x.exponentField = 0 then x.rank % fractionSize else fractionSize + x.rank % fractionSize

/-- The number of binary places that the significand is shifted by, counted in units. -/
def shift (x : Binary64) : Nat := x.exponentField - 1

/-- The magnitude of a finite number, in units. -/
def units (x : Binary64) : Nat := x.significand * Nat.pow 2 x.shift

/-- The value of a finite number in units, with its sign. -/
def signedUnits (x : Binary64) : Int := if x.negative then -(x.units : Int) else x.units

/-- A finite number without a fractional part. -/
def isWhole (x : Binary64) : Bool := x.units % one == 0

end Binary64

/-! ## Rounding -/

/-- The quotient of two natural numbers rounded to the nearest whole number; of two equally
near ones the even one is taken. -/
def roundedQuotient (num den : Nat) : Nat :=
  let q := num / den
  let twice := 2 * (num % den)
  if den < twice || (twice == den && q % 2 == 1) then q + 1 else q

/-- The rank of the binary64 number nearest to `num / den` units. A quotient of at least `2⁵³`
units is first shifted down until 53 binary digits are left; ranks are dense enough that a
significand rounded up to `2⁵³` names the next power of two. -/
def nearestRank (num den : Nat) : Nat :=
  let shift := Nat.log2 (num / den) - 52
  min Binary64.infinityRank
    (shift * Binary64.fractionSize + roundedQuotient num (den * Nat.pow 2 shift))

theorem nearestRank_lt (num den : Nat) : nearestRank num den < 0x8000000000000000 :=
  Nat.lt_of_le_of_lt (Nat.min_le_left _ _) (by decide)

namespace Binary64

/-- The number nearest to `num / den` units, with a given sign. -/
def ofUnits (negative : Bool) (num den : Nat) : Binary64 :=
  ⟨negative, nearestRank num den, nearestRank_lt num den⟩

/-- The number nearest to a quotient. -/
def ofQuotient (negative : Bool) (num den : Nat) : Binary64 := ofUnits negative (num * one) den

/-- The number nearest to a natural number. -/
def ofNat (n : Nat) : Binary64 := ofQuotient false n 1

/-- The number nearest to an integer. -/
def ofInt (i : Int) : Binary64 := ofQuotient (decide (i < 0)) i.natAbs 1

/-- Zero, positive. -/
def zero : Binary64 := ⟨false, 0, by decide⟩

/-- Infinity with a given sign. -/
def infinity (negative : Bool) : Binary64 := ⟨negative, infinityRank, by decide⟩

/-- The value that stands for the absence of a number. -/
def nan : Binary64 := ⟨false, 0x7FF8000000000000, by decide⟩

/-! ## Arithmetic -/

/-- The product of two finite numbers, rounded. -/
def mul (x y : Binary64) : Binary64 :=
  ofUnits (x.negative != y.negative) (x.units * y.units) one

/-- The quotient of two finite numbers, rounded; the second is not zero. -/
def div (x y : Binary64) : Binary64 :=
  ofUnits (x.negative != y.negative) (x.units * one) y.units

/-- The sum of two numbers, rounded. A sum of zero is negative only if both numbers are, and
infinities of different signs have no sum. -/
def add (x y : Binary64) : Binary64 :=
  if x.isNaN || y.isNaN then nan
  else if x.isInfinite then
    if y.isInfinite && x.negative != y.negative then nan else x
  else if y.isInfinite then y
  else
    let sum := x.signedUnits + y.signedUnits
    if sum = 0 then { zero with negative := x.negative && y.negative }
    else ofUnits (decide (sum < 0)) sum.natAbs 1

/-- `x` is smaller than `y`; nothing is smaller or larger than a value that is not a number. -/
def lt (x y : Binary64) : Bool :=
  !x.isNaN && !y.isNaN &&
    match x.negative, y.negative with
    | false, false => x.rank < y.rank
    | true, true => y.rank < x.rank
    | true, false => 0 < x.rank + y.rank
    | false, true => false

/-- `x` and `y` are the same number; the zeros of both signs are. -/
def same (x y : Binary64) : Bool :=
  !x.isNaN && !y.isNaN && (x == y || (x.isZero && y.isZero))

end Binary64

end Specimen.Number
