import Specimen.Xml.Fault
import Specimen.Xml.Name

set_option autoImplicit false

/-! # Reading XML text from a place on

A cursor is a stretch of a document's text and the index of its first character in the
document. The readers of this file take what stands in front of a cursor; they return the
cursor behind it, with the proof that no more is left than before, or the first fault.
-/

namespace Specimen.Xml

/-- A stretch of the text of a document. -/
structure Cursor where
  /-- The index of the stretch's first character in the document. -/
  index : Nat
  /-- The characters of the stretch. -/
  rest : List Char

namespace Cursor

/-- A cursor with fewer characters left than `s`. -/
abbrev Behind (s : Cursor) : Type := { t : Cursor // t.rest.length < s.rest.length }

/-- A cursor with no more characters left than `s`. -/
abbrev From (s : Cursor) : Type := { t : Cursor // t.rest.length ≤ s.rest.length }

/-- What is read from behind the first character on leaves less than there was. -/
theorem length_rest_lt {s : Cursor} {c : Char} {r : List Char} (h : s.rest = c :: r)
    (t : From ⟨s.index + 1, r⟩) : t.1.rest.length < s.rest.length := by
  rw [h]
  exact Nat.lt_succ_of_le t.2

/-- Behind a cursor that is behind `s`. -/
def Behind.trans {s : Cursor} (t : Behind s) (u : From t.1) : Behind s :=
  ⟨u.1, Nat.lt_of_le_of_lt u.2 t.2⟩

/-- From a cursor that is from `s` on. -/
def From.trans {s : Cursor} (t : From s) (u : From t.1) : From s :=
  ⟨u.1, Nat.le_trans u.2 t.2⟩

/-- Behind a cursor that is from `s` on. -/
def From.behind {s : Cursor} (t : From s) (u : Behind t.1) : Behind s :=
  ⟨u.1, Nat.lt_of_lt_of_le u.2 t.2⟩

/-- A cursor behind `s` is one from `s` on. -/
def Behind.weaken {s : Cursor} (t : Behind s) : From s := ⟨t.1, Nat.le_of_lt t.2⟩

/-- A cursor itself. -/
def here (s : Cursor) : From s := ⟨s, Nat.le_refl _⟩

/-- A fault at a cursor. -/
def fault {α : Type} (s : Cursor) (cause : Cause) : Except Fault α := .error ⟨cause, s.index⟩

/-- The text of a cursor starts with `word`. -/
def startsWith (s : Cursor) (word : String) : Bool := word.toList.isPrefixOf s.rest

/-- The cursor behind the first `n` characters. -/
def drop (s : Cursor) (n : Nat) : From s :=
  ⟨⟨s.index + n, s.rest.drop n⟩, by simp⟩

/-- The cursor behind the first character and `n` others. -/
def dropBehind (s : Cursor) (h : s.rest ≠ []) (n : Nat) : Behind s :=
  ⟨⟨s.index + n + 1, s.rest.drop (n + 1)⟩, by
    have := List.length_pos_iff.2 h
    simp only [List.length_drop]
    omega⟩

/-- The first byte of a character's UTF-8 form, as a character. -/
def firstByte (c : Char) : Char := Char.ofNat ((String.utf8EncodeChar c).headD 0).toNat

/-- The longest run of characters with a property in front of a text, and its length. -/
def takeRun (p : Char → Bool) (s : Cursor) : List Char × From s :=
  let run := s.rest.takeWhile p
  (run, s.drop run.length)

/-- The cursor behind the white space in front of it. -/
def skipSpaces (s : Cursor) : From s := (s.takeRun isSpace).2

/-- The cursor behind one character, which has to be `c`. -/
def expect (s : Cursor) (c : Char) : Except Fault (Behind s) :=
  match h : s.rest with
  | [] => s.fault .endOfText
  | d :: r =>
    if d = c then .ok ⟨⟨s.index + 1, r⟩, by simp [h]⟩
    else s.fault (.expectedChar c (firstByte d))

/-- The cursor behind a fixed text. -/
def expectText (s : Cursor) (word : String) : Except Fault (From s) :=
  if s.startsWith word then .ok (s.drop word.length) else s.fault (.expectedText word)

/-- The cursor behind white space, of which there has to be some. -/
def expectSpaces (s : Cursor) : Except Fault (Behind s) :=
  match h : s.rest with
  | [] => s.fault .endOfText
  | d :: r =>
    if isSpace d then
      let t := skipSpaces ⟨s.index + 1, r⟩
      .ok ⟨t.1, length_rest_lt h t⟩
    else s.fault (.expectedOneOf "a whitespace" (firstByte d))

/-- A quotation mark of either kind, and the cursor behind it. -/
def takeQuote (s : Cursor) : Except Fault (Char × Behind s) :=
  match h : s.rest with
  | [] => s.fault .endOfText
  | d :: r =>
    if d = '"' ∨ d = '\x27' then .ok (d, ⟨⟨s.index + 1, r⟩, by simp [h]⟩)
    else s.fault (.expectedOneOf "a quote" (firstByte d))

/-- The cursor behind an equals sign and the white space around it. -/
def expectEquals (s : Cursor) : Except Fault (Behind s) := do
  let t ← s.skipSpaces.1.expect '='
  return (s.skipSpaces.behind t).trans t.1.skipSpaces

/-- A text contains `word`. -/
def contains (word : List Char) : List Char → Bool
  | [] => word.isEmpty
  | c :: r => word.isPrefixOf (c :: r) || contains word r

/-- The characters in front of the first place at which `stops` holds of the text, all of which
have to be allowed in a document, the one at that place as well. -/
def takeUntil (stops : List Char → Bool) (s : Cursor) : Except Fault (List Char × From s) :=
  go s.index s.rest
where
  /-- The characters of a stretch. -/
  go (index : Nat) : (text : List Char) →
      Except Fault (List Char × { t : Cursor // t.rest.length ≤ text.length })
    | [] => .ok ([], ⟨⟨index, []⟩, Nat.le_refl _⟩)
    | c :: r =>
      if !isAllowed c then .error ⟨.forbiddenChar c, index⟩
      else if stops (c :: r) then .ok ([], ⟨⟨index, c :: r⟩, Nat.le_refl _⟩)
      else
        match go (index + 1) r with
        | .error f => .error f
        | .ok (cs, ⟨t, h⟩) => .ok (c :: cs, ⟨t, Nat.le_succ_of_le h⟩)

/-- The characters in front of a fixed text, and the cursor behind that text. -/
def takeThrough (s : Cursor) (word : String) : Except Fault (List Char × From s) := do
  let (cs, t) ← s.takeUntil word.toList.isPrefixOf
  let u ← t.1.expectText word
  return (cs, t.trans u)

/-- A name, colons included, and the cursor behind it; at the end of the text nothing. -/
def skipName (s : Cursor) : Except Fault (List Char × From s) :=
  match s.rest with
  | [] => .ok ([], s.here)
  | c :: _ => if isNameStart c then .ok (s.takeRun isNameChar) else s.fault .invalidName

/-- A name, colons included, and the cursor behind it. -/
def takeName (s : Cursor) : Except Fault (List Char × From s) :=
  if s.rest.isEmpty then s.fault .invalidName else s.skipName

/-- Taking a run that is not empty leaves less than before. -/
theorem length_takeRun_lt {p : Char → Bool} {s : Cursor}
    (h : (s.takeRun p).1 ≠ []) : (s.takeRun p).2.1.rest.length < s.rest.length := by
  obtain ⟨i, r⟩ := s
  cases r with
  | nil => simp [takeRun] at h
  | cons c r =>
    by_cases hc : p c = true
    · simp only [takeRun, drop, List.takeWhile_cons, hc, if_true, List.length_cons,
        List.drop_succ_cons, List.length_drop]
      omega
    · simp [takeRun, hc] at h

/-- A text that may be a part of a qualified name. -/
def isNamePart (part : List Char) : Bool :=
  match part with
  | [] => false
  | c :: _ => isNameStart c

/-- A qualified name, and the cursor behind it: name characters with at most one colon, each
part of which starts like a name. Only the part in front of the colon may be empty. -/
def takeQName (s : Cursor) : Except Fault (QName × Behind s) :=
  let run := (s.takeRun isNameChar).1
  let t := (s.takeRun isNameChar).2
  let qualifier := run.takeWhile (· != ':')
  let behind := run.dropWhile (· != ':')
  let name : QName :=
    match behind with
    | [] => ⟨[], qualifier⟩
    | _ :: inner => ⟨qualifier, inner⟩
  if name.name.contains ':' then s.fault .invalidName
  else if !name.qualifier.isEmpty && !isNamePart name.qualifier then s.fault .invalidName
  else if !isNamePart name.name then s.fault .invalidName
  else if h : run = [] then s.fault .invalidName
  else .ok (name, ⟨t.1, length_takeRun_lt h⟩)

end Cursor

end Specimen.Xml
