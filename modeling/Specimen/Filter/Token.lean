import Specimen.Json.Text
import Specimen.Text.Blank

set_option autoImplicit false

/-! # The tokens of filters

A filter's text is cut into words, names behind a point, numbers, strings and symbols. White
space and comments separate tokens. A comment goes from a `#` to the end of the line, and over
it if the line ends in an odd number of backslashes.
-/

namespace Specimen.Filter

open Specimen.Json Specimen.Text

/-- A token. -/
inductive Token
  | word (text : String)
  /-- A name right behind a point. -/
  | field (name : String)
  | number (text : List Char)
  | text (value : String)
  | symbol (text : String)
  deriving DecidableEq

/-- A character with which a word starts. -/
def isWordStart (c : Char) : Bool := c.isAlpha || c == '_'

/-- A character that may stand inside a word. -/
def isWordChar (c : Char) : Bool := c.isAlphanum || c == '_'

/-- A character of operators; a run of such characters is one symbol. -/
def isOperatorChar (c : Char) : Bool :=
  ['|', '=', '!', '<', '>', '+', '-', '*', '/', '%'].contains c

/-- A character that is a symbol of its own. -/
def isMark (c : Char) : Bool :=
  ['[', ']', '(', ')', '\x7b', '\x7d', ',', ':', ';', '?'].contains c

/-! ## Comments -/

/-- The text behind a comment; `continues` says that an odd number of backslashes stands in
front. -/
def behindComment (continues : Bool) : List Char → List Char
  | [] => []
  | '\r' :: '\n' :: r => if continues then behindComment false r else r
  | '\n' :: r => if continues then behindComment false r else r
  | '\\' :: r => behindComment (!continues) r
  | _ :: r => behindComment false r

/-- A comment takes nothing back. -/
theorem length_behindComment_le (continues : Bool) (s : List Char) :
    (behindComment continues s).length ≤ s.length := by
  fun_induction behindComment continues s <;> simp only [List.length_cons, Nat.le_refl] <;> omega

/-! ## Strings -/

/-- The character of an escape, from the text behind its backslash, and the text behind it. A
numeric escape is a character by itself. -/
def takeEscape? : (s : List Char) → Option (Char × Shorter s)
  | [] => none
  | 'u' :: r =>
    match readHex r with
    | .error _ => none
    | .ok (n, ⟨t, h⟩) =>
      if n.isValidChar then some (Char.ofNat n, ⟨t, Remainder.lt_cons h⟩) else none
  | e :: r => (shortEscape? e).map fun c => (c, ⟨r, Remainder.lt_cons_self⟩)

/-- The characters of a string, whose opening quote has been taken, and the text behind it. All
characters but the quote and the backslash stand for themselves. -/
def takeString? (s : List Char) : Option (List Char × Shorter s) :=
  match s with
  | [] => none
  | c :: r =>
    if c = '"' then some ([], ⟨r, Remainder.lt_cons_self⟩)
    else if c = '\\' then
      match takeEscape? r with
      | none => none
      | some (d, ⟨t, h⟩) =>
        have : t.length < r.length + 1 := Remainder.lt_cons h
        (takeString? t).map fun (cs, ⟨u, h'⟩) => (d :: cs, ⟨u, Remainder.lt_of_lt_lt_cons h' h⟩)
    else (takeString? r).map fun (cs, ⟨u, h⟩) => (c :: cs, ⟨u, Remainder.lt_cons h⟩)
termination_by s.length
decreasing_by
  · exact this
  · exact Remainder.lt_cons_self

/-! ## Numbers -/

/-- The part of a number's text that a mark starts, and the text behind it: digits have to
follow the mark. A sign may stand in front of the digits if `isSigned` holds. -/
def takePart? (marks : List Char) (isSigned : Bool) (s : List Char) :
    Option (List Char × List Char) :=
  match s with
  | [] => some ([], [])
  | c :: r =>
    if marks.contains c then
      let sign := if isSigned then r.take 1 |>.filter fun d => d == '+' || d == '-' else []
      let digits := (r.drop sign.length).takeWhile Char.isDigit
      if digits.isEmpty then none
      else some (c :: (sign ++ digits), (r.drop sign.length).dropWhile Char.isDigit)
    else some ([], s)

/-- The text of the number in front of a text: digits, a fraction and an exponent. -/
def numberText? (s : List Char) : Option (List Char) := do
  let (fraction, r) ← takePart? ['.'] false (s.dropWhile Char.isDigit)
  let (exponent, _) ← takePart? ['e', 'E'] true r
  return s.takeWhile Char.isDigit ++ fraction ++ exponent

/-! ## Tokens -/

/-- A comment and its mark take something. -/
theorem length_behindComment_lt (s : List Char) :
    (behindComment false s).length < s.length + 1 :=
  Nat.lt_succ_of_le (length_behindComment_le false s)

/-- A run of characters and the one in front of it take something. -/
theorem length_dropWhile_lt {p : Char → Bool} {s : List Char} :
    (s.dropWhile p).length < s.length + 1 :=
  Nat.lt_succ_of_le (List.dropWhile_sublist _).length_le

/-- A run of characters and the two in front of it take something. -/
theorem length_dropWhile_lt_succ {p : Char → Bool} {s : List Char} :
    (s.dropWhile p).length < s.length + 1 + 1 :=
  Nat.lt_succ_of_lt length_dropWhile_lt

/-- A number takes its first digit at least. -/
theorem length_behindNumber_lt {text s : List Char} :
    (s.drop (text.length - 1)).length < s.length + 1 := by
  simp only [List.length_drop]
  omega

/-- The tokens of a text; none if something in it is no token. -/
def tokens? (s : List Char) : Option (List Token) :=
  match s with
  | [] => some []
  | c :: r =>
    if isBlank c then tokens? r
    else if c = '#' then
      have : (behindComment false r).length < r.length + 1 :=
        length_behindComment_lt r
      tokens? (behindComment false r)
    else if c = '"' then
      match takeString? r with
      | none => none
      | some (cs, ⟨t, h⟩) =>
        have : t.length < r.length + 1 := Remainder.lt_cons h
        (tokens? t).map (.text (String.ofList cs) :: ·)
    else if isWordStart c then
      have : (r.dropWhile isWordChar).length < r.length + 1 :=
        length_dropWhile_lt
      (tokens? (r.dropWhile isWordChar)).map
        (.word (String.ofList (c :: r.takeWhile isWordChar)) :: ·)
    else if c.isDigit then
      match numberText? (c :: r) with
      | none => none
      | some text =>
        have : (r.drop (text.length - 1)).length < r.length + 1 :=
          length_behindNumber_lt
        (tokens? (r.drop (text.length - 1))).map (.number text :: ·)
    else if isOperatorChar c then
      have : (r.dropWhile isOperatorChar).length < r.length + 1 :=
        length_dropWhile_lt
      (tokens? (r.dropWhile isOperatorChar)).map
        (.symbol (String.ofList (c :: r.takeWhile isOperatorChar)) :: ·)
    else if c = '.' then
      match r with
      | [] => some [.symbol "."]
      | d :: t =>
        if d = '.' then (tokens? t).map (.symbol ".." :: ·)
        else if isWordStart d then
          have : (t.dropWhile isWordChar).length < t.length + 1 + 1 :=
            length_dropWhile_lt_succ
          (tokens? (t.dropWhile isWordChar)).map
            (.field (String.ofList (d :: t.takeWhile isWordChar)) :: ·)
        else (tokens? (d :: t)).map (.symbol "." :: ·)
    else if isMark c then (tokens? r).map (.symbol (String.singleton c) :: ·)
    else none
termination_by s.length
decreasing_by all_goals first | exact this | exact Remainder.lt_cons_self | exact Nat.le_succ _

end Specimen.Filter
