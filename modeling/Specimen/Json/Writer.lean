import Specimen.Json.Text
import Specimen.Json.Value
import Specimen.Number.Shortest

set_option autoImplicit false

/-! # Writing JSON text

A value is written on one line (`compact`) or over several lines with an indentation of two
spaces (`pretty`); empty arrays and objects take no line of their own. Numbers that are not
integers are written with the fewest digits that read back: positionally, with at least one
digit behind the point, from `10⁻⁵` up to sixteen digits in front of the point, and with a
signed exponent otherwise.
-/

namespace Specimen.Json

open Specimen.Number

/-! ## Numbers -/

/-- The digits of a natural number. -/
def natText (n : Nat) : List Char := Nat.toDigits 10 n

/-- The digits of an integer behind its sign. -/
def intText (i : Int) : List Char := if i < 0 then '-' :: natText i.natAbs else natText i.natAbs

/-- An exponent with its sign. -/
def exponentText (e : Int) : List Char := if e < 0 then intText e else '+' :: intText e

/-- The most digits in front of the point of a number written positionally. -/
def positionalDigits : Int := 16

/-- The most zeros right behind the point of a number written positionally. -/
def positionalZeros : Int := 4

/-- The text of a positive number from its significant digits and the place of its point,
counted from the first digit. -/
def magnitudeText (digits : List Char) (point : Int) : List Char :=
  let count : Int := digits.length
  if count ≤ point ∧ point ≤ positionalDigits then
    digits ++ List.replicate (point - count).toNat '0' ++ ['.', '0']
  else if 0 < point ∧ point ≤ positionalDigits then
    digits.take point.toNat ++ '.' :: digits.drop point.toNat
  else if point ≤ 0 ∧ -positionalZeros ≤ point then
    ['0', '.'] ++ List.replicate (-point).toNat '0' ++ digits
  else
    let mantissa :=
      match digits with
      | d :: e :: ds => d :: '.' :: e :: ds
      | ds => ds
    mantissa ++ 'e' :: exponentText (point - 1)

/-- The text of a finite number: the fewest digits that read back. -/
def floatText (x : Binary64) : List Char :=
  let sign := if x.negative then ['-'] else []
  if x.isZero then sign ++ ['0', '.', '0']
  else
    let numeral := x.shortest
    let digits := natText numeral.digits
    let significant := (digits.reverse.dropWhile (· == '0')).reverse
    sign ++ magnitudeText significant (digits.length + numeral.exponent)

/-- The text of a number. -/
def Number.text : Number → List Char
  | .integer i => intText i
  | .float x => floatText x

/-! ## Values -/

/-- A value that is written without lines of its own, if it is one. -/
def scalarText? : Value → Option (List Char)
  | .null => some ['n', 'u', 'l', 'l']
  | .bool true => some ['t', 'r', 'u', 'e']
  | .bool false => some ['f', 'a', 'l', 's', 'e']
  | .number n => some n.text
  | .text t => some (quoted t.toList)
  | .array [] => some ['[', ']']
  | .object [] => some ['\x7b', '\x7d']
  | _ => none

mutual

/-- A value on one line. -/
def compactText : Value → List Char
  | .array items => '[' :: (compactItems items ++ [']'])
  | .object members => '\x7b' :: (compactMembers members ++ ['\x7d'])
  | v => (scalarText? v).getD []

/-- The elements of an array on one line, separated by commas. -/
def compactItems : List Value → List Char
  | [] => []
  | [v] => compactText v
  | v :: vs => compactText v ++ ',' :: compactItems vs

/-- The members of an object on one line, separated by commas. -/
def compactMembers : List (String × Value) → List Char
  | [] => []
  | [(name, v)] => quoted name.toList ++ ':' :: compactText v
  | (name, v) :: ms => quoted name.toList ++ ':' :: compactText v ++ ',' :: compactMembers ms

end

/-- A line break and the indentation of a nested line. -/
def newLine (depth : Nat) : List Char := '\n' :: List.replicate (2 * depth) ' '

mutual

/-- A value over several lines; `depth` is the nesting of the line on which it starts. -/
def prettyText (depth : Nat) : Value → List Char
  | .array [] => ['[', ']']
  | .object [] => ['\x7b', '\x7d']
  | .array (v :: vs) =>
    '[' :: (newLine (depth + 1) ++ prettyText (depth + 1) v ++ prettyItems (depth + 1) vs ++
      newLine depth ++ [']'])
  | .object ((name, v) :: ms) =>
    '\x7b' :: (newLine (depth + 1) ++ quoted name.toList ++ [':', ' '] ++
      prettyText (depth + 1) v ++ prettyMembers (depth + 1) ms ++ newLine depth ++ ['\x7d'])
  | v => (scalarText? v).getD []

/-- The further elements of an array, each on a line behind a comma. -/
def prettyItems (depth : Nat) : List Value → List Char
  | [] => []
  | v :: vs => ',' :: (newLine depth ++ prettyText depth v ++ prettyItems depth vs)

/-- The further members of an object, each on a line behind a comma. -/
def prettyMembers (depth : Nat) : List (String × Value) → List Char
  | [] => []
  | (name, v) :: ms =>
    ',' :: (newLine depth ++ quoted name.toList ++ [':', ' '] ++ prettyText depth v ++
      prettyMembers depth ms)

end

/-- A value on one line, without spaces. -/
def compact (v : Value) : String := String.ofList (compactText v)

/-- A value over several lines, with an indentation of two spaces. -/
def pretty (v : Value) : String := String.ofList (prettyText 0 v)

end Specimen.Json
