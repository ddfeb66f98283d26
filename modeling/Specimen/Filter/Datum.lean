import Specimen.Json.Writer
import Specimen.Number.Decimal

set_option autoImplicit false

/-! # The data of filters

The values that a filter works on are those of JSON, except for numbers: integers of 64 bits are
computed with as such, so that sums wrap around; all other numbers that a document or a filter
holds keep their text until they are computed with, and the results of such computations are
binary64.

Data of different kinds are ordered by their kinds; lists are compared element by element, and
objects by their sorted names first and then by the values in this order.
-/

namespace Specimen.Filter

open Specimen.Number

/-- A number. -/
inductive Numeric
  /-- An integer of 64 bits. -/
  | integer (value : Int64)
  /-- The result of a computation with other numbers. -/
  | float (value : Binary64)
  /-- A number that has not been computed with, by its text. -/
  | numeral (text : List Char)

/-- A value that a filter works on. -/
inductive Datum
  | null
  | bool (value : Bool)
  | number (value : Numeric)
  | text (value : String)
  | array (items : List Datum)
  | object (members : List (String × Datum))

/-! ## Numbers -/

namespace Numeric

/-- An integer has no more than 64 bits. -/
def isSmall (i : Int) : Bool := -0x8000000000000000 ≤ i && i < 0x8000000000000000

/-- The binary64 number nearest to a number. -/
def toBinary64 : Numeric → Binary64
  | .integer i => Binary64.ofInt i.toInt
  | .float x => x
  | .numeral text => ((Decimal.ofText? text).map Decimal.nearest).getD Binary64.nan

/-- The number of a text of digits, an optional fraction and an optional exponent. -/
def ofText (text : List Char) : Numeric :=
  let i : Int := Decimal.natOfDigits text
  if text.all Char.isDigit && isSmall i then .integer (Int64.ofInt i) else .numeral text

/-- The number of a JSON document. -/
def ofJson : Json.Number → Numeric
  | .integer i => if isSmall i then .integer (Int64.ofInt i) else .numeral (Json.intText i)
  | .float x => .numeral (Json.floatText x)

/-- How a number is written. What is no finite number is written as null. -/
def text : Numeric → List Char
  | .integer i => Json.intText i.toInt
  | .float x => if x.isNaN || x.isInfinite then ['n', 'u', 'l', 'l'] else Json.floatText x
  | .numeral text => text

/-- The sum of two numbers; that of two integers wraps around. -/
def add : Numeric → Numeric → Numeric
  | .integer i, .integer j => .integer (i + j)
  | m, n => .float (m.toBinary64.add n.toBinary64)

/-- The number with the other sign; the least integer stays as it is. -/
def neg : Numeric → Numeric
  | .integer i => .integer (-i)
  | n => .float n.toBinary64.neg

/-- The number without its sign; the least integer stays as it is. -/
def abs : Numeric → Numeric
  | .integer i => .integer i.abs
  | n => .float n.toBinary64.abs

/-- The order of numbers. What is not a number comes before all numbers. -/
def compare (m n : Numeric) : Ordering :=
  match m, n with
  | .integer i, .integer j => Ord.compare i.toInt j.toInt
  | m, n =>
    let x := m.toBinary64
    let y := n.toBinary64
    if x.isNaN then .lt
    else if y.isNaN then .gt
    else if x.same y then .eq
    else if x.lt y then .lt
    else .gt

end Numeric

/-! ## Conversion -/

mutual

/-- The datum of a JSON value. -/
def Datum.ofJson : Json.Value → Datum
  | .null => .null
  | .bool b => .bool b
  | .number n => .number (Numeric.ofJson n)
  | .text t => .text t
  | .array items => .array (Datum.ofItems items)
  | .object members => .object (Datum.ofMembers members)

/-- The data of the elements of an array. -/
def Datum.ofItems : List Json.Value → List Datum
  | [] => []
  | v :: vs => Datum.ofJson v :: Datum.ofItems vs

/-- The data of the members of an object. -/
def Datum.ofMembers : List (String × Json.Value) → List (String × Datum)
  | [] => []
  | (name, v) :: ms => (name, Datum.ofJson v) :: Datum.ofMembers ms

end

mutual

/-- How a datum is written, as JSON text on one line. -/
def Datum.toText : Datum → List Char
  | .null => ['n', 'u', 'l', 'l']
  | .bool true => ['t', 'r', 'u', 'e']
  | .bool false => ['f', 'a', 'l', 's', 'e']
  | .number n => n.text
  | .text t => Json.quoted t.toList
  | .array items => '[' :: (Datum.itemsText items ++ [']'])
  | .object members => '\x7b' :: (Datum.membersText members ++ ['\x7d'])

/-- The elements of an array, separated by commas. -/
def Datum.itemsText : List Datum → List Char
  | [] => []
  | [d] => d.toText
  | d :: ds => d.toText ++ ',' :: Datum.itemsText ds

/-- The members of an object, separated by commas. -/
def Datum.membersText : List (String × Datum) → List Char
  | [] => []
  | [(name, d)] => Json.quoted name.toList ++ ':' :: d.toText
  | (name, d) :: ms =>
    Json.quoted name.toList ++ ':' :: d.toText ++ ',' :: Datum.membersText ms

end

/-! ## Order -/

/-- Members in the order of their names. -/
def sortByName {α : Type} (members : List (String × α)) : List (String × α) :=
  members.mergeSort fun m n => !decide (n.1 < m.1)

mutual

/-- The datum with the members of all objects in it in the order of their names. -/
def Datum.sorted : Datum → Datum
  | .array items => .array (Datum.sortedItems items)
  | .object members => .object (sortByName (Datum.sortedMembers members))
  | d => d

/-- The elements of an array, each sorted. -/
def Datum.sortedItems : List Datum → List Datum
  | [] => []
  | d :: ds => d.sorted :: Datum.sortedItems ds

/-- The members of an object, the value of each sorted. -/
def Datum.sortedMembers : List (String × Datum) → List (String × Datum)
  | [] => []
  | (name, d) :: ms => (name, d.sorted) :: Datum.sortedMembers ms

end

/-- The place of a datum's kind in the order of kinds. -/
def Datum.kindRank : Datum → Nat
  | .null => 0
  | .bool false => 1
  | .bool true => 2
  | .number _ => 3
  | .text _ => 4
  | .array _ => 5
  | .object _ => 6

/-- The order of two lists of names, name by name. -/
def compareNames : List String → List String → Ordering
  | [], [] => .eq
  | [], _ :: _ => .lt
  | _ :: _, [] => .gt
  | m :: ms, n :: ns => (Ord.compare m n).then (compareNames ms ns)

mutual

/-- The order of data whose objects are sorted. -/
def Datum.compareSorted : Datum → Datum → Ordering
  | .number m, .number n => m.compare n
  | .text s, .text t => Ord.compare s t
  | .array ds, .array es => Datum.compareItems ds es
  | .object ms, .object ns =>
    if ms.isEmpty || ns.isEmpty then Ord.compare ms.length ns.length
    else
      (compareNames (ms.map Prod.fst) (ns.map Prod.fst)).then (Datum.compareValues ms ns)
  | d, e => Ord.compare d.kindRank e.kindRank

/-- The order of two lists of data, element by element. -/
def Datum.compareItems : List Datum → List Datum → Ordering
  | [], [] => .eq
  | [], _ :: _ => .lt
  | _ :: _, [] => .gt
  | d :: ds, e :: es => (d.compareSorted e).then (Datum.compareItems ds es)

/-- The order of two lists of members by their values, member by member. -/
def Datum.compareValues : List (String × Datum) → List (String × Datum) → Ordering
  | [], [] => .eq
  | [], _ :: _ => .lt
  | _ :: _, [] => .gt
  | (_, d) :: ms, (_, e) :: ns => (d.compareSorted e).then (Datum.compareValues ms ns)

end

/-- The order of data. -/
def Datum.compare (d e : Datum) : Ordering := d.sorted.compareSorted e.sorted

/-- A datum counts as true unless it is null or false. -/
def Datum.isTrue : Datum → Bool
  | .null => false
  | .bool b => b
  | _ => true

end Specimen.Filter
