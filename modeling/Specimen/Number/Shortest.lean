import Specimen.Number.Decimal

set_option autoImplicit false

/-! # The shortest numeral of a number

`Binary64.shortest` is the numeral with the fewest digits whose nearest binary64 number is the
given one; of two such numerals with equally many digits it is the one nearer to the number.

The exact decimal expansion of a finite number is a whole number of `10⁻¹⁰⁷⁴`
(`expansion`). For each count of digits only its two neighbours on the grid of numerals with so
many digits have to be tried: if any numeral of the grid reads back, one of them does.
-/

namespace Specimen.Number.Binary64

/-- The decimal places that are enough to write every finite number exactly. -/
def expansionPlaces : Nat := 1074

/-- The magnitude of a finite number as a whole number of `10⁻¹⁰⁷⁴`. -/
def expansion (x : Binary64) : Nat := x.units * Nat.pow 5 expansionPlaces

/-- The numerals with `count` digits on both sides of the magnitude of `x`, the nearer one
first. -/
def neighbours (x : Binary64) (count : Nat) : List Decimal :=
  let places := (Nat.toDigits 10 x.expansion).length - count
  let below := x.expansion / Nat.pow 10 places
  let rest := x.expansion % Nat.pow 10 places
  let numeral := fun (n : Nat) => (⟨x.negative, n, (places : Int) - expansionPlaces⟩ : Decimal)
  if rest = 0 then [numeral below]
  else if Nat.pow 10 places < 2 * rest then [numeral (below + 1), numeral below]
  else [numeral below, numeral (below + 1)]

/-- The numeral with the fewest digits that reads back as `x`: seventeen digits are always
enough. -/
def shortest (x : Binary64) : Decimal :=
  if x.isZero then ⟨x.negative, 0, 0⟩
  else
    let candidates := (List.range 17).flatMap fun n => x.neighbours (n + 1)
    (candidates.find? fun d => d.nearest == x).getD ⟨x.negative, x.expansion, -expansionPlaces⟩

end Specimen.Number.Binary64
