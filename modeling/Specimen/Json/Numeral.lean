import Specimen.Json.Text
import Specimen.Json.Value
import Specimen.Number.Decimal

set_option autoImplicit false

/-! # JSON numbers

A number is first read as a `Numeral`, its written parts, and then evaluated. Integers of up to
64 bits keep their value. All other numbers become binary64 numbers by scaling a significand of
at most 64 bits (`Numeral.float?`): digits are collected while they fit; a whole digit that does
not fit raises the exponent, a fractional one is dropped. The collected digits are rounded to
binary64 and then multiplied or divided by a rounded power of ten, so the result can differ in
its last places from the number nearest to the numeral.
-/

namespace Specimen.Json

open Specimen.Number Specimen.Text

/-- The written parts of a number. -/
structure Numeral where
  /-- A minus sign stands in front. -/
  negative : Bool
  /-- The digits in front of the point. -/
  whole : List Char
  /-- The digits behind the point; none if there is no point. -/
  fraction : List Char
  /-- The sign and the digits of the exponent, if there is one. -/
  exponent : Option (Bool × List Char)

/-! ## Reading the parts -/

/-- The digits in front of a text and what follows them. -/
def takeDigits : (s : List Char) → List Char × NotLonger s
  | [] => ([], .all [])
  | c :: r =>
    if c.isDigit then
      let (ds, ⟨t, h⟩) := takeDigits r
      (c :: ds, ⟨t, Remainder.le_cons h⟩)
    else ([], .all (c :: r))

/-- The digits in front of the point: at least one, and no other behind a leading zero. -/
def readWhole : (s : List Char) → Except Fault (List Char × Shorter s)
  | [] => .error (.before .endOfValue [])
  | c :: r =>
    if c = '0' then
      match r with
      | d :: t =>
        if d.isDigit then .error (.within .invalidNumber (d :: t))
        else .ok (['0'], ⟨d :: t, Remainder.cons_lt_cons_self⟩)
      | [] => .ok (['0'], ⟨[], Remainder.nil_lt_cons⟩)
    else if c.isDigit then
      let (ds, ⟨t, h⟩) := takeDigits r
      .ok (c :: ds, ⟨t, Remainder.lt_cons_of_le h⟩)
    else .error (.within .invalidNumber (c :: r))

/-- The digits behind the point, of which there is at least one, or nothing if no point
follows. -/
def readFraction : (s : List Char) → Except Fault (List Char × NotLonger s)
  | '.' :: r =>
    match takeDigits r with
    | ([], _) =>
      .error (if r.isEmpty then .within .endOfValue [] else .within .invalidNumber r)
    | (ds, ⟨t, h⟩) => .ok (ds, ⟨t, Remainder.le_cons h⟩)
  | s => .ok ([], .all s)

/-- The sign of an exponent and what follows it. -/
def readSign : (s : List Char) → Bool × NotLonger s
  | '-' :: r => (true, ⟨r, Remainder.le_cons_self⟩)
  | '+' :: r => (false, ⟨r, Remainder.le_cons_self⟩)
  | s => (false, .all s)

/-- The exponent, whose first digit is taken before it is looked at, or nothing if no mark
follows. -/
def readExponent : (s : List Char) → Except Fault (Option (Bool × List Char) × NotLonger s)
  | [] => .ok (none, .all [])
  | mark :: r =>
    if mark = 'e' ∨ mark = 'E' then
      let (negative, ⟨t, ht⟩) := readSign r
      match takeDigits t with
      | ([], _) => .error (if t.isEmpty then .before .endOfValue [] else .within .invalidNumber t)
      | (ds, ⟨u, hu⟩) => .ok (some (negative, ds), ⟨u, Remainder.le_of_le_le_cons hu ht⟩)
    else .ok (none, .all (mark :: r))

/-- The parts of the number in front of a text, behind its sign, and what follows it. -/
def readNumeral (negative : Bool) (s : List Char) : Except Fault (Numeral × Shorter s) :=
  match readWhole s with
  | .error f => .error f
  | .ok (whole, ⟨r, hr⟩) =>
    match readFraction r with
    | .error f => .error f
    | .ok (fraction, ⟨t, ht⟩) =>
      match readExponent t with
      | .error f => .error f
      | .ok (exponent, ⟨u, hu⟩) =>
        have hs : t.length < s.length := Remainder.lt_of_le_lt ht hr
        .ok (⟨negative, whole, fraction, exponent⟩, ⟨u, Remainder.lt_of_le_lt hu hs⟩)

/-! ## Evaluation -/

/-- A digit that can be added to a significand of 64 bits. -/
def fits (significand digit : Nat) : Bool := significand * 10 + digit < 0x10000000000000000

/-- A significand after the whole digits that fit, and how many digits did not. -/
def collectWhole (significand : Nat) : List Char → Nat × Nat
  | [] => (significand, 0)
  | d :: ds =>
    if fits significand (Decimal.digitValue d) then
      collectWhole (significand * 10 + Decimal.digitValue d) ds
    else (significand, ds.length + 1)

/-- A significand after the fractional digits that fit, and how many were collected. -/
def collectFraction (significand : Nat) : List Char → Nat × Nat
  | [] => (significand, 0)
  | d :: ds =>
    if fits significand (Decimal.digitValue d) then
      let (full, taken) := collectFraction (significand * 10 + Decimal.digitValue d) ds
      (full, taken + 1)
    else (significand, 0)

/-- The largest exponent whose power of ten is a finite number. -/
def largestExponent : Nat := 308

/-- The binary64 number nearest to a power of ten. -/
def powerOfTen (n : Nat) : Binary64 := Binary64.ofNat (Nat.pow 10 n)

/-- A number scaled by a power of ten, in one multiplication or by repeated division; none if
the result is too large. -/
def scaled? (x : Binary64) (exponent : Int) : Option Binary64 :=
  if 0 ≤ exponent then
    if exponent ≤ largestExponent then
      let y := x.mul (powerOfTen exponent.toNat)
      if y.isInfinite then none else some y
    else if x.isZero then some x
    else none
  else if -largestExponent ≤ exponent then some (x.div (powerOfTen (-exponent).toNat))
  else if x.isZero then some x
  else scaled? (x.div (powerOfTen largestExponent)) (exponent + largestExponent)
termination_by (-exponent).toNat
decreasing_by simp only [largestExponent] at *; omega

/-- The largest written exponent that is computed with. -/
def exponentLimit : Nat := 0x7FFFFFFF

/-- The digits of an exponent behind the one with which it exceeds the limit, if it does. -/
def behindLimit? (value : Nat) : List Char → Option (List Char)
  | [] => none
  | d :: ds =>
    let next := value * 10 + Decimal.digitValue d
    if exponentLimit < next then some ds else behindLimit? next ds

namespace Numeral

/-- The whole digits' significand and exponent, continued by the fractional digits. -/
def significand (n : Numeral) : Nat × Int :=
  let (s, dropped) := collectWhole 0 n.whole
  let (full, taken) := collectFraction s n.fraction
  (full, (dropped : Int) - taken)

/-- A number with a given sign. -/
def withSign (negative : Bool) (x : Binary64) : Binary64 := if negative then x.neg else x

/-- The binary64 number of a numeral. A number out of range is a fault behind the numeral, or
behind the digit with which the exponent exceeds its limit; `rest` is the text behind the
numeral. An exponent beyond the limit makes zero of a zero, and of any number if it is
negative. -/
def float? (n : Numeral) (rest : List Char) : Except Fault Binary64 :=
  let (s, e) := n.significand
  let (negative, ds) := n.exponent.getD (false, [])
  match behindLimit? 0 ds with
  | some more =>
    if s = 0 || negative then .ok (withSign n.negative Binary64.zero)
    else .error (.before .numberOutOfRange (more ++ rest))
  | none =>
    match scaled? (Binary64.ofNat s) (e + Decimal.signed negative (Decimal.natOfDigits ds)) with
    | some x => .ok (withSign n.negative x)
    | none => .error (.before .numberOutOfRange rest)

/-- The integer of a numeral without fraction and exponent, if it has at most 64 bits; minus
zero is no integer. -/
def integer? (n : Numeral) : Option Int :=
  if n.fraction.isEmpty && n.exponent.isNone then
    let (s, dropped) := collectWhole 0 n.whole
    if dropped ≠ 0 then none
    else if !n.negative then some s
    else if s = 0 ∨ 0x8000000000000000 < s then none
    else some (-(s : Int))
  else none

/-- The number of a numeral. -/
def toNumber (n : Numeral) (rest : List Char) : Except Fault Number :=
  match n.integer? with
  | some i => .ok (.integer i)
  | none => (n.float? rest).map .float

end Numeral

end Specimen.Json
