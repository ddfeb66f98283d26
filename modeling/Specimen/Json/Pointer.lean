import Specimen.Json.Value
import Specimen.Text.Segments
import Specimen.Number.Decimal

set_option autoImplicit false

/-! # JSON pointers

A pointer names a part of a value: the empty pointer the value itself, any other pointer, which
must start with a slash, the part that is reached by its tokens one after the other. A token
names a member of an object or, as a decimal number without sign and leading zero, an element
of an array. In a token `~1` stands for a slash and `~0` for a tilde.
-/

namespace Specimen.Json

open Specimen.Number Specimen.Text

/-- The text with `with` in place of every `~` that `mark` follows. -/
def unescapeTilde (mark : Char) (replacement : Char) : List Char → List Char
  | [] => []
  | [c] => [c]
  | c :: d :: r =>
    if c = '~' ∧ d = mark then replacement :: unescapeTilde mark replacement r
    else c :: unescapeTilde mark replacement (d :: r)

/-- A token without its escapes: slashes are restored before tildes. -/
def unescapeToken (token : List Char) : List Char :=
  unescapeTilde '0' '~' (unescapeTilde '1' '/' token)

/-- The tokens of a pointer. -/
def pointerTokens? (pointer : List Char) : Option (List (List Char)) :=
  match pointer with
  | [] => some []
  | c :: r => if c = '/' then some ((segments '/' r).map unescapeToken) else none

/-- The array index that a token is. -/
def indexOfToken? (token : List Char) : Option Nat :=
  match token with
  | [] => none
  | ['0'] => some 0
  | c :: r =>
    if c ≠ '0' ∧ c.isDigit ∧ r.all Char.isDigit then some (Decimal.natOfDigits (c :: r)) else none

/-- The part of a value that one token selects. -/
def Value.step? (v : Value) (token : List Char) : Option Value :=
  match v with
  | .object members => members.lookup (String.ofList token)
  | .array items => (indexOfToken? token).bind fun i => items[i]?
  | _ => none

/-- The part of a value that a sequence of tokens selects. -/
def Value.follow? (v : Value) (tokens : List (List Char)) : Option Value :=
  tokens.foldlM Value.step? v

/-- The part of a value that a pointer selects. -/
def Value.pointer? (v : Value) (pointer : String) : Option Value :=
  (pointerTokens? pointer.toList).bind v.follow?

end Specimen.Json
