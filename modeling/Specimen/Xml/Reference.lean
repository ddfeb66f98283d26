import Specimen.Xml.Cursor
import Specimen.Number.Decimal

set_option autoImplicit false

/-! # References and line ends

A reference stands for a character, by its number or one of five names, or for the text of an
entity. Line ends are folded: in text a carriage return, with the line feed behind it if there
is one, becomes a line feed; in the value of an attribute each white space character becomes a
space.
-/

namespace Specimen.Xml

open Cursor Specimen.Number

/-- What a reference stands for. -/
inductive Reference
  | char (c : Char)
  | entity (name : List Char)

/-- The character with a number; numbers that are no characters stand for the replacement
character. Numbers of more than 32 bits and characters that are not allowed are refused. -/
def charOfNumber? (n : Nat) : Option Char :=
  if 0x100000000 ≤ n then none
  else
    let c := if n.isValidChar then Char.ofNat n else '\ufffd'
    if isAllowed c then some c else none

/-- The value of a hexadecimal digit. -/
def hexDigitValue (c : Char) : Nat :=
  if c.isDigit then Decimal.digitValue c else c.toLower.toNat - 'a'.toNat + 10

/-- A hexadecimal digit. -/
def isHexDigit (c : Char) : Bool :=
  c.isDigit || ('a' ≤ c && c ≤ 'f') || ('A' ≤ c && c ≤ 'F')

/-- The character that a number, in digits of some base, refers to. -/
def numbered? (base : Nat) (value : Char → Nat) (digits : List Char) : Option Reference :=
  if digits.isEmpty then none
  else (charOfNumber? (digits.foldl (fun n c => n * base + value c) 0)).map .char

/-- What a name refers to. -/
def named (name : List Char) : Reference :=
  match String.ofList name with
  | "quot" => .char '"'
  | "amp" => .char '&'
  | "apos" => .char '\x27'
  | "lt" => .char '<'
  | "gt" => .char '>'
  | _ => .entity name

/-- What the text between `&` and `;` refers to, from the cursor behind the `&`, and the cursor
behind that text. -/
def takeTarget? (s : Cursor) : Option (Reference × From s) :=
  if s.startsWith "#x" then
    let (digits, t) := (s.drop 2).1.takeRun isHexDigit
    (numbered? 16 hexDigitValue digits).map fun r => (r, (s.drop 2).trans t)
  else if s.startsWith "#" then
    let (digits, t) := (s.drop 1).1.takeRun Char.isDigit
    (numbered? 10 Decimal.digitValue digits).map fun r => (r, (s.drop 1).trans t)
  else
    match s.takeName with
    | .ok (name, t) => some (named name, t)
    | .error _ => none

/-- The reference from the cursor behind its `&`, and the cursor behind it. -/
def takeReference? (s : Cursor) : Option (Reference × From s) := do
  let (r, t) ← takeTarget? s
  match t.1.expect ';' with
  | .ok u => return (r, t.trans u.weaken)
  | .error _ => none

/-! ## Line ends -/

/-- Text with a character added and line ends folded; the text is given from its end. A carriage
return is kept until the next character, or the end, shows what it becomes. -/
def foldLineEnd (reversed : List Char) (c : Char) (isLast : Bool) : List Char :=
  let c' := if isLast && c = '\r' then '\n' else c
  match reversed with
  | [] => [c']
  | d :: r =>
    if d = '\r' then if c = '\n' then '\n' :: r else c' :: '\n' :: r
    else c' :: d :: r

/-- Text with its line ends folded. -/
def foldLineEnds (text : List Char) : List Char := (go [] text).reverse
where
  /-- The rest of a text added to folded text. -/
  go (reversed : List Char) : List Char → List Char
    | [] => reversed
    | c :: r => go (foldLineEnd reversed c r.isEmpty) r

/-- The value of an attribute with a character added and white space folded, given from its
end. -/
def foldSpace (reversed : List Char) (c : Char) (next : Option Char) : List Char :=
  if c = '\r' ∧ next = some '\n' then reversed
  else if c = '\n' ∨ c = '\r' ∨ c = '\t' then ' ' :: reversed
  else c :: reversed

end Specimen.Xml
