set_option autoImplicit false

/-! # Sets of code points

A property of characters is given by the ranges of code points that have it, in ascending
order.
-/

namespace Specimen.Text

/-- The code points `first, …, last`. -/
structure CodeRange where
  /-- The first code point. -/
  first : Nat
  /-- The last code point. -/
  last : Nat
  deriving DecidableEq

/-- A code point lies in a range. -/
def CodeRange.contains (r : CodeRange) (n : Nat) : Bool := r.first ≤ n && n ≤ r.last

/-- A code point lies in one of some ranges, which are in ascending order. -/
def inRanges (ranges : List CodeRange) (n : Nat) : Bool :=
  match ranges with
  | [] => false
  | r :: rs => if n < r.first then false else r.contains n || inRanges rs n

end Specimen.Text
