import Specimen.Json.Fault

set_option autoImplicit false

/-! # JSON strings and white space

The lexical layer of JSON text: white space, the body of a string with its escapes
(`readString`), and the writing of strings (`quoted`). A reader returns what is left of its
text together with the proof that this is shorter, which is what bounds the loops above it.
-/

namespace Specimen.Json

open Specimen.Text

/-- A text shorter than `s`. -/
abbrev Shorter (s : List Char) : Type := { r : List Char // r.length < s.length }

/-- A text not longer than `s`. -/
abbrev NotLonger (s : List Char) : Type := { r : List Char // r.length ≤ s.length }

/-- All of a text, of which nothing has been taken. -/
@[reducible] def NotLonger.all (s : List Char) : NotLonger s := ⟨s, Nat.le_refl _⟩

/-! ## The lengths of remainders

A reader takes characters from the front of a text, and the next one takes more of what is left.
Each of these steps shortens the text by a lemma of its own, so that no arithmetic stands inside
the readers.
-/

namespace Remainder

variable {r s t u : List Char}

theorem lt_cons_self : r.length < r.length + 1 := Nat.lt_succ_self _

theorem le_cons_self : r.length ≤ r.length + 1 := Nat.le_succ _

theorem lt_cons (h : t.length < r.length) : t.length < r.length + 1 := Nat.lt_succ_of_lt h

theorem le_cons (h : t.length ≤ r.length) : t.length ≤ r.length + 1 := Nat.le_succ_of_le h

theorem lt_cons_of_le (h : t.length ≤ r.length) : t.length < r.length + 1 := Nat.lt_succ_of_le h

theorem lt_cons_cons (h : t.length < r.length) : t.length < r.length + 1 + 1 :=
  Nat.lt_succ_of_lt (Nat.lt_succ_of_lt h)

/-- The four digits of a code unit are gone. -/
theorem lt_digits : r.length < r.length + 1 + 1 + 1 + 1 := by omega

theorem lt_of_lt_lt_cons (h : u.length < t.length) (ht : t.length < r.length) :
    u.length < r.length + 1 := by omega

theorem le_of_le_le_cons (h : u.length ≤ t.length) (ht : t.length ≤ r.length) :
    u.length ≤ r.length + 1 := by omega

theorem nil_lt_cons : ([] : List Char).length < ([] : List Char).length + 1 := Nat.zero_lt_succ _

theorem cons_lt_cons_self : r.length + 1 < r.length + 1 + 1 := Nat.lt_succ_self _

theorem le_of_lt (h : t.length < r.length) : t.length ≤ r.length := Nat.le_of_lt h

theorem le_of_lt_cons (h : t.length < r.length + 1) : t.length ≤ r.length := Nat.le_of_lt_succ h

theorem lt_of_lt_lt (h : u.length < t.length) (ht : t.length < s.length) : u.length < s.length :=
  Nat.lt_trans h ht

theorem lt_of_le_lt (h : u.length ≤ t.length) (ht : t.length < s.length) : u.length < s.length :=
  Nat.lt_of_le_of_lt h ht

end Remainder

/-! ## White space and words -/

/-- The four characters that may stand between the parts of a JSON text. -/
def isSpace (c : Char) : Bool := c == ' ' || c == '\n' || c == '\t' || c == '\r'

/-- The text behind its leading white space. -/
def skipSpace : (s : List Char) → NotLonger s
  | [] => .all []
  | c :: r =>
    if isSpace c then
      let ⟨t, h⟩ := skipSpace r
      ⟨t, Remainder.le_cons h⟩
    else .all (c :: r)

/-- The word `letters` in front of a text, and what follows it. Each character is taken before
it is compared. -/
def readWord : (letters s : List Char) → Except Fault (NotLonger s)
  | [], s => .ok (.all s)
  | _ :: _, [] => .error (.before .endOfValue [])
  | l :: letters, c :: r =>
    if l = c then
      (readWord letters r).map fun ⟨t, h⟩ => ⟨t, Remainder.le_cons h⟩
    else .error (.within .expectedWord (c :: r))

/-! ## Escapes -/

/-- The value of a hexadecimal digit. -/
def hexValue? (c : Char) : Option Nat :=
  if '0' ≤ c ∧ c ≤ '9' then some (c.toNat - '0'.toNat)
  else if 'a' ≤ c ∧ c ≤ 'f' then some (c.toNat - 'a'.toNat + 10)
  else if 'A' ≤ c ∧ c ≤ 'F' then some (c.toNat - 'A'.toNat + 10)
  else none

/-- The number that hexadecimal digits denote, if all are such digits. -/
def hexNumber? (digits : List Char) : Option Nat :=
  digits.foldlM (fun n c => (hexValue? c).map (n * 16 + ·)) 0

/-- The fault of a text that does not start with four hexadecimal digits: four bytes are taken
if there are so many. -/
def hexFault (s : List Char) : Fault :=
  if byteCount s < 4 then .before .endOfString []
  else ⟨.invalidEscape, [], byteCount s - 4⟩

/-- The number of four hexadecimal digits, and what follows them. -/
def readHex : (s : List Char) → Except Fault (Nat × Shorter s)
  | a :: b :: c :: d :: r =>
    match hexNumber? [a, b, c, d] with
    | some n => .ok (n, ⟨r, Remainder.lt_digits⟩)
    | none => .error (hexFault (a :: b :: c :: d :: r))
  | s => .error (hexFault s)

/-- Code units that start a pair. -/
def isLeading (n : Nat) : Bool := 0xD800 ≤ n && n ≤ 0xDBFF

/-- Code units that end a pair. -/
def isTrailing (n : Nat) : Bool := 0xDC00 ≤ n && n ≤ 0xDFFF

/-- The character of a pair of code units. -/
def pairedChar (leading trailing : Nat) : Char :=
  Char.ofNat (0x10000 + (leading - 0xD800) * 0x400 + (trailing - 0xDC00))

/-- The second code unit of a pair, which must follow as an escape of its own. -/
def readTrailing : (s : List Char) → Except Fault (Nat × Shorter s)
  | '\\' :: 'u' :: r =>
    match readHex r with
    | .error f => .error f
    | .ok (n, ⟨t, h⟩) =>
      if isTrailing n then .ok (n, ⟨t, Remainder.lt_cons_cons h⟩)
      else .error (.before .loneSurrogate t)
  | '\\' :: r =>
    .error (if r.isEmpty then .before .endOfString [] else .within .endOfSurrogatePair r)
  | s => .error (if s.isEmpty then .before .endOfString [] else .within .endOfSurrogatePair s)

/-- The character of a numeric escape, from the text behind its `u`. -/
def readCodePoint (s : List Char) : Except Fault (Char × Shorter s) :=
  match readHex s with
  | .error f => .error f
  | .ok (n, ⟨r, h⟩) =>
    if isTrailing n then .error (.before .loneSurrogate r)
    else if isLeading n then
      match readTrailing r with
      | .error f => .error f
      | .ok (m, ⟨t, h'⟩) => .ok (pairedChar n m, ⟨t, Remainder.lt_of_lt_lt h' h⟩)
    else .ok (Char.ofNat n, ⟨r, h⟩)

/-- The character of an escape that is one letter. -/
def shortEscape? : Char → Option Char
  | '"' => some '"'
  | '\\' => some '\\'
  | '/' => some '/'
  | 'b' => some '\x08'
  | 'f' => some '\x0c'
  | 'n' => some '\n'
  | 'r' => some '\r'
  | 't' => some '\t'
  | _ => none

/-- The character of an escape, from the text behind its backslash. -/
def readEscape : (s : List Char) → Except Fault (Char × Shorter s)
  | [] => .error (.before .endOfString [])
  | 'u' :: r => (readCodePoint r).map fun (c, ⟨t, h⟩) => (c, ⟨t, Remainder.lt_cons h⟩)
  | e :: r =>
    match shortEscape? e with
    | some c => .ok (c, ⟨r, Remainder.lt_cons_self⟩)
    | none => .error (.within .invalidEscape (e :: r))

/-! ## Strings -/

/-- The characters of a string, from the text behind its opening quote. -/
def readString (s : List Char) : Except Fault (List Char × Shorter s) :=
  match s with
  | [] => .error (.before .endOfString [])
  | '"' :: r => .ok ([], ⟨r, Remainder.lt_cons_self⟩)
  | '\\' :: r =>
    match readEscape r with
    | .error f => .error f
    | .ok (c, ⟨t, h⟩) =>
      have : t.length < r.length + 1 := Remainder.lt_cons h
      match readString t with
      | .error f => .error f
      | .ok (cs, ⟨u, h'⟩) => .ok (c :: cs, ⟨u, Remainder.lt_of_lt_lt_cons h' h⟩)
  | c :: r =>
    if c.toNat < 0x20 then .error (.within .controlCharacter (c :: r))
    else
      match readString r with
      | .error f => .error f
      | .ok (cs, ⟨u, h⟩) => .ok (c :: cs, ⟨u, Remainder.lt_cons h⟩)
termination_by s.length
decreasing_by
  · exact this
  · exact Remainder.lt_cons_self

/-- The hexadecimal digit of a number below sixteen, in lower case. -/
def hexDigit (n : Nat) : Char := Nat.digitChar n

/-- A character inside a written string: the quote, the backslash and the control characters
are escaped, all others stand for themselves. -/
def escaped (c : Char) : List Char :=
  match c with
  | '"' => ['\\', '"']
  | '\\' => ['\\', '\\']
  | '\x08' => ['\\', 'b']
  | '\x0c' => ['\\', 'f']
  | '\n' => ['\\', 'n']
  | '\r' => ['\\', 'r']
  | '\t' => ['\\', 't']
  | c =>
    if c.toNat < 0x20 then
      ['\\', 'u', '0', '0', hexDigit (c.toNat / 16), hexDigit (c.toNat % 16)]
    else [c]

/-- A written string. -/
def quoted (s : List Char) : List Char := '"' :: (s.flatMap escaped ++ ['"'])

end Specimen.Json
