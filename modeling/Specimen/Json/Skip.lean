import Specimen.Json.Reader

set_option autoImplicit false

/-! # Passing over JSON values

A value that is not needed is passed over without being built. This is more tolerant than
reading it: arrays and objects may be nested to any depth, numbers of any size and escapes of
any code units are accepted. Some faults are named differently: behind a comma a further element
or member is expected, whatever is there.
-/

namespace Specimen.Json

open Specimen.Text

/-! ## Numbers and strings -/

/-- The text behind the fraction of a number, if one is there. -/
def skipFraction : (s : List Char) → Except Fault (NotLonger s)
  | '.' :: r =>
    match takeDigits r with
    | ([], _) => .error (.within .invalidNumber r)
    | (_, ⟨t, h⟩) => .ok ⟨t, Remainder.le_cons h⟩
  | s => .ok (.all s)

/-- The text behind the exponent of a number, if one is there. -/
def skipExponent : (s : List Char) → Except Fault (NotLonger s)
  | [] => .ok (.all [])
  | mark :: r =>
    if mark = 'e' ∨ mark = 'E' then
      let (_, ⟨t, ht⟩) := readSign r
      match takeDigits t with
      | ([], _) => .error (.within .invalidNumber t)
      | (_, ⟨u, hu⟩) => .ok ⟨u, Remainder.le_of_le_le_cons hu ht⟩
    else .ok (.all (mark :: r))

/-- The text behind the whole digits of a number. -/
def skipWhole (s : List Char) : Except Fault (Shorter s) :=
  if s.isEmpty then .error (.before .invalidNumber s) else (readWhole s).map Prod.snd

/-- The text behind a number, whose sign has been taken. -/
def skipNumber (s : List Char) : Except Fault (Shorter s) :=
  match skipWhole s with
  | .error f => .error f
  | .ok ⟨r, hr⟩ =>
    match skipFraction r with
    | .error f => .error f
    | .ok ⟨t, ht⟩ =>
      have hs : t.length < s.length := Remainder.lt_of_le_lt ht hr
      (skipExponent t).map fun ⟨u, hu⟩ => ⟨u, Remainder.lt_of_le_lt hu hs⟩

/-- The text behind an escape, whose backslash has been taken. -/
def skipEscape : (s : List Char) → Except Fault (Shorter s)
  | [] => .error (.before .endOfString [])
  | 'u' :: r => (readHex r).map fun (_, ⟨t, h⟩) => ⟨t, Remainder.lt_cons h⟩
  | e :: r =>
    if (shortEscape? e).isSome then .ok ⟨r, Remainder.lt_cons_self⟩
    else .error (.within .invalidEscape (e :: r))

/-- The text behind a string, whose opening quote has been taken. -/
def skipString (s : List Char) : Except Fault (Shorter s) :=
  match s with
  | [] => .error (.before .endOfString [])
  | c :: r =>
    if c = '"' then .ok ⟨r, Remainder.lt_cons_self⟩
    else if c = '\\' then
      match skipEscape r with
      | .error f => .error f
      | .ok ⟨t, h⟩ =>
        have : t.length < r.length + 1 := Remainder.lt_cons h
        (skipString t).map fun ⟨u, h'⟩ => ⟨u, Remainder.lt_of_lt_lt_cons h' h⟩
    else if c.toNat < 0x20 then .error (.before .controlCharacter (c :: r))
    else (skipString r).map fun ⟨u, h⟩ => ⟨u, Remainder.lt_cons h⟩
termination_by s.length
decreasing_by
  · exact this
  · exact Remainder.lt_cons_self

/-! ## Values -/

/-- The text behind a value that is no array and no object, from its first character `c` and the
text behind it. -/
def skipScalar (c : Char) (r : List Char) : Except Fault (NotLonger r) :=
  match c with
  | 'n' => readWord ['u', 'l', 'l'] r
  | 't' => readWord ['r', 'u', 'e'] r
  | 'f' => readWord ['a', 'l', 's', 'e'] r
  | '"' => (skipString r).map fun ⟨t, h⟩ => ⟨t, Remainder.le_of_lt h⟩
  | '-' => (skipNumber r).map fun ⟨t, h⟩ => ⟨t, Remainder.le_of_lt h⟩
  | c =>
    if c.isDigit then (skipNumber (c :: r)).map fun ⟨t, h⟩ => ⟨t, Remainder.le_of_lt_cons h⟩
    else .error (.within .expectedValue (c :: r))

/-- The text behind the name of a member and its colon. -/
def skipKey (s : List Char) : Except Fault (Shorter s) :=
  match skipSpace s with
  | ⟨[], _⟩ => .error (.within .endOfObject [])
  | ⟨c :: r, h⟩ =>
    if c = '"' then
      match skipString r with
      | .error f => .error f
      | .ok ⟨t, ht⟩ =>
        match skipSpace t with
        | ⟨[], _⟩ => .error (.within .endOfObject [])
        | ⟨d :: u, hu⟩ =>
          if d = ':' then
            have hs : t.length < s.length := Remainder.lt_of_lt_lt ht h
            .ok ⟨u, Remainder.lt_of_lt_lt hu hs⟩
          else .error (.within .expectedColon (d :: u))
    else .error (.within .keyMustBeString (c :: r))

/-- What stands behind an opening bracket: the closing one (`false`, and the text behind it), or
something else (`true`, and the text from it on). -/
def skipOpening (close : Char) (atEnd : Cause) (s : List Char) :
    Except Fault (Bool × NotLonger s) :=
  match skipSpace s with
  | ⟨[], _⟩ => .error (.within atEnd [])
  | ⟨c :: r, h⟩ =>
    if c = close then .ok (false, ⟨r, Remainder.le_of_lt h⟩) else .ok (true, ⟨c :: r, h⟩)

mutual

/-- The text behind a value. -/
def skipValue (s : List Char) : Except Fault (Shorter s) :=
  match skipSpace s with
  | ⟨[], _⟩ => .error (.within .endOfValue [])
  | ⟨c :: r, h⟩ =>
    have : r.length < s.length := h
    if c = '[' then
      match skipOpening ']' .endOfList r with
      | .error f => .error f
      | .ok (false, ⟨t, ht⟩) => .ok ⟨t, Remainder.lt_of_le_lt ht h⟩
      | .ok (true, ⟨t, ht⟩) =>
        have hs : t.length < s.length := Remainder.lt_of_le_lt ht h
        (skipItems t).map fun ⟨u, hu⟩ => ⟨u, Remainder.lt_of_lt_lt hu hs⟩
    else if c = '\x7b' then
      match skipOpening '\x7d' .endOfObject r with
      | .error f => .error f
      | .ok (false, ⟨t, ht⟩) => .ok ⟨t, Remainder.lt_of_le_lt ht h⟩
      | .ok (true, ⟨t, ht⟩) =>
        have hs : t.length < s.length := Remainder.lt_of_le_lt ht h
        (skipMembers t).map fun ⟨u, hu⟩ => ⟨u, Remainder.lt_of_lt_lt hu hs⟩
    else (skipScalar c r).map fun ⟨t, ht⟩ => ⟨t, Remainder.lt_of_le_lt ht h⟩
termination_by (s.length, 0)

/-- The text behind an array, from one of its elements on. -/
def skipItems (s : List Char) : Except Fault (Shorter s) :=
  match skipValue s with
  | .error f => .error f
  | .ok ⟨r, hr⟩ =>
    match readSeparator ']' .endOfList .expectedListCommaOrEnd r with
    | .error f => .error f
    | .ok (false, ⟨t, ht⟩) => .ok ⟨t, Remainder.lt_of_lt_lt ht hr⟩
    | .ok (true, ⟨t, ht⟩) =>
      have hs : t.length < s.length := Remainder.lt_of_lt_lt ht hr
      (skipItems t).map fun ⟨u, hu⟩ => ⟨u, Remainder.lt_of_lt_lt hu hs⟩
termination_by (s.length, 1)

/-- The text behind an object, from one of its members on. -/
def skipMembers (s : List Char) : Except Fault (Shorter s) :=
  match skipKey s with
  | .error f => .error f
  | .ok ⟨r, hr⟩ =>
    have : r.length < s.length := hr
    match skipValue r with
    | .error f => .error f
    | .ok ⟨t, ht⟩ =>
      have hs : t.length < s.length := Remainder.lt_of_lt_lt ht hr
      match readSeparator '\x7d' .endOfObject .expectedObjectCommaOrEnd t with
      | .error f => .error f
      | .ok (false, ⟨u, hu⟩) => .ok ⟨u, Remainder.lt_of_lt_lt hu hs⟩
      | .ok (true, ⟨u, hu⟩) =>
        have hs' : u.length < s.length := Remainder.lt_of_lt_lt hu hs
        (skipMembers u).map fun ⟨w, hw⟩ => ⟨w, Remainder.lt_of_lt_lt hw hs'⟩
termination_by (s.length, 1)

end

end Specimen.Json
