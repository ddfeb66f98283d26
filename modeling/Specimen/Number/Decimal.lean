import Specimen.Number.Binary64

set_option autoImplicit false

/-! # Decimal numerals

A decimal numeral `± digits · 10 ^ exponent`, its reading from text (`Decimal.ofText?`) and the
binary64 number nearest to it (`Decimal.nearest`).

The text of a numeral is an optional sign, decimal digits with at most one point among them,
before them or behind them, and an optional exponent: `e` or `E`, an optional sign and digits.
-/

namespace Specimen.Number

/-- The number `± digits · 10 ^ exponent`. -/
structure Decimal where
  /-- The sign. -/
  negative : Bool
  /-- The digits, read as one whole number. -/
  digits : Nat
  /-- The power of ten that the digits are scaled by. -/
  exponent : Int
  deriving DecidableEq, Repr

namespace Decimal

/-! ## Reading -/

/-- The value of a decimal digit. -/
def digitValue (c : Char) : Nat := c.toNat - '0'.toNat

/-- The whole number that a run of decimal digits denotes. -/
def natOfDigits (ds : List Char) : Nat := ds.foldl (fun n c => n * 10 + digitValue c) 0

/-- Whether a text starts with a minus sign, and the text behind a sign of either kind. -/
def takeSign : List Char → Bool × List Char
  | '-' :: r => (true, r)
  | '+' :: r => (false, r)
  | r => (false, r)

/-- An integer from its sign and magnitude. -/
def signed (negative : Bool) (n : Nat) : Int := if negative then -(n : Int) else n

/-- The exponent of a numeral from the text behind its digits: nothing, or a mark, an optional
sign and at least one digit up to the end. -/
def exponentOfText? : List Char → Option Int
  | [] => some 0
  | mark :: r =>
    if mark = 'e' ∨ mark = 'E' then
      let (negative, ds) := takeSign r
      if ds.isEmpty || !ds.all Char.isDigit then none
      else some (signed negative (natOfDigits ds))
    else none

/-- The digits behind a decimal point, and the text behind them. -/
def takeFraction : List Char → List Char × List Char
  | '.' :: r => (r.takeWhile Char.isDigit, r.dropWhile Char.isDigit)
  | r => ([], r)

/-- The numeral that a text denotes. -/
def ofText? (s : List Char) : Option Decimal :=
  let (negative, unsigned) := takeSign s
  let whole := unsigned.takeWhile Char.isDigit
  let (fraction, rest) := takeFraction (unsigned.dropWhile Char.isDigit)
  if whole.isEmpty && fraction.isEmpty then none
  else
    (exponentOfText? rest).map fun exponent =>
      ⟨negative, natOfDigits (whole ++ fraction), exponent - fraction.length⟩

/-! ## The nearest binary64 number -/

/-- A power of ten that exceeds every finite binary64 number. -/
def largestPower : Nat := 309

/-- Numerals below `10 ^ -smallestPower` are nearer to zero than to any other number. -/
def smallestPower : Nat := 330

/-- The binary64 number nearest to a numeral: infinity beyond the largest numbers, zero below
the smallest, and of two equally near numbers the one with an even last place. -/
def nearest (d : Decimal) : Binary64 :=
  if d.digits = 0 then { Binary64.zero with negative := d.negative }
  else if 0 ≤ d.exponent then
    if largestPower ≤ d.exponent then Binary64.infinity d.negative
    else Binary64.ofQuotient d.negative (d.digits * Nat.pow 10 d.exponent.toNat) 1
  else
    let places := (-d.exponent).toNat
    if Nat.log2 d.digits / 3 + 1 + smallestPower ≤ places then
      { Binary64.zero with negative := d.negative }
    else Binary64.ofQuotient d.negative d.digits (Nat.pow 10 places)

end Decimal

end Specimen.Number
