import Specimen.Json.Numeral

set_option autoImplicit false

/-! # Reading JSON text

`read` gives the value of a JSON document or the first fault of its text. Arrays and objects
may be nested less than 128 deep. A fault between the members of an object, or in a member's
name, lies at the unknown member of the object.
-/

namespace Specimen.Json

open Specimen.Text

/-- The nesting of arrays and objects that is refused. -/
def depthLimit : Nat := 128

/-- The number in front of a text, behind its sign, and what follows it. -/
def readNumber (negative : Bool) (s : List Char) : Except Fault (Number × Shorter s) :=
  match readNumeral negative s with
  | .error f => .error f
  | .ok (numeral, ⟨r, h⟩) => (numeral.toNumber r).map fun n => (n, ⟨r, h⟩)

/-- A value that is a single word, from the text behind the word's first letter. -/
def readConstant (letters : List Char) (v : Value) (s : List Char) :
    Except Fault (Value × NotLonger s) :=
  (readWord letters s).map fun r => (v, r)

/-- A value that is no array and no object, from its first character `c` and the text behind
it. -/
def readScalar (c : Char) (r : List Char) : Except Fault (Value × NotLonger r) :=
  match c with
  | 'n' => readConstant ['u', 'l', 'l'] .null r
  | 't' => readConstant ['r', 'u', 'e'] (.bool true) r
  | 'f' => readConstant ['a', 'l', 's', 'e'] (.bool false) r
  | '"' =>
    (readString r).map fun (cs, ⟨t, h⟩) => (.text (String.ofList cs), ⟨t, Remainder.le_of_lt h⟩)
  | '-' => (readNumber true r).map fun (n, ⟨t, h⟩) => (.number n, ⟨t, Remainder.le_of_lt h⟩)
  | c =>
    if c.isDigit then
      (readNumber false (c :: r)).map fun (n, ⟨t, h⟩) =>
        (.number n, ⟨t, Remainder.le_of_lt_cons h⟩)
    else .error (.within .expectedValue (c :: r))

/-- The text of the next element of an array behind a comma. -/
def nextItem (s : List Char) : Except Fault (NotLonger s) :=
  match skipSpace s with
  | ⟨[], _⟩ => .error (.within .endOfValue [])
  | ⟨c :: r, h⟩ =>
    if c = ']' then .error (.within .trailingComma (c :: r)) else .ok ⟨c :: r, h⟩

/-- The text behind the colon that follows a member's name. -/
def readColon (s : List Char) : Except Fault (Shorter s) :=
  match skipSpace s with
  | ⟨[], _⟩ => .error (.within .endOfObject [])
  | ⟨c :: r, h⟩ => if c = ':' then .ok ⟨r, h⟩ else .error (.within .expectedColon (c :: r))

/-- The text behind the quote that opens the next member's name, behind a comma. -/
def nextKey (s : List Char) : Except Fault (Shorter s) :=
  match skipSpace s with
  | ⟨[], _⟩ => .error (.within .endOfValue [])
  | ⟨c :: r, h⟩ =>
    if c = '"' then .ok ⟨r, h⟩
    else if c = '\x7d' then .error (.within .trailingComma (c :: r))
    else .error (.within .keyMustBeString (c :: r))

/-- What stands behind the opening bracket of an array: the end of an empty array (`false`,
and the text behind it) or the first element (`true`, and its text). -/
def firstItem (s : List Char) : Except Fault (Bool × NotLonger s) :=
  match skipSpace s with
  | ⟨[], _⟩ => .error (.within .endOfList [])
  | ⟨c :: r, h⟩ =>
    if c = ']' then .ok (false, ⟨r, Remainder.le_of_lt h⟩) else .ok (true, ⟨c :: r, h⟩)

/-- What stands behind the opening brace of an object: the end of an empty object (`false`) or
the quote that opens the first member's name (`true`), and the text behind it. -/
def firstKey (s : List Char) : Except Fault (Bool × Shorter s) :=
  match skipSpace s with
  | ⟨[], _⟩ => .error (.within .endOfObject [])
  | ⟨c :: r, h⟩ =>
    if c = '"' then .ok (true, ⟨r, h⟩)
    else if c = '\x7d' then .ok (false, ⟨r, h⟩)
    else .error (.within .keyMustBeString (c :: r))

/-- What follows an element or a member: the end of the array or object (`false`) or a comma
(`true`), and the text behind it. -/
def readSeparator (close : Char) (atEnd otherwise : Cause) (s : List Char) :
    Except Fault (Bool × Shorter s) :=
  match skipSpace s with
  | ⟨[], _⟩ => .error (.within atEnd [])
  | ⟨c :: r, h⟩ =>
    if c = close then .ok (false, ⟨r, h⟩)
    else if c = ',' then .ok (true, ⟨r, h⟩)
    else .error (.within otherwise (c :: r))

mutual

/-- The value in front of a text, and what follows it. `depth` is the nesting that is still
allowed. -/
def readValue (depth : Nat) (s : List Char) : Except Fault (Value × Shorter s) :=
  match skipSpace s with
  | ⟨[], _⟩ => .error (.within .endOfValue [])
  | ⟨c :: r, h⟩ =>
    have : r.length < s.length := h
    if c = '[' then
      if depth ≤ 1 then .error (.within .tooDeep (c :: r))
      else
        match firstItem r with
        | .error f => .error f
        | .ok (false, ⟨t, ht⟩) => .ok (.array [], ⟨t, Remainder.lt_of_le_lt ht h⟩)
        | .ok (true, ⟨t, ht⟩) =>
          have hs : t.length < s.length := Remainder.lt_of_le_lt ht h
          (readItems (depth - 1) 0 t).map fun (items, ⟨u, hu⟩) =>
            (.array items, ⟨u, Remainder.lt_of_lt_lt hu hs⟩)
    else if c = '\x7b' then
      if depth ≤ 1 then .error (.within .tooDeep (c :: r))
      else
        match firstKey r with
        | .error f => .error (f.under .unknown)
        | .ok (false, ⟨t, ht⟩) => .ok (.object [], ⟨t, Remainder.lt_of_lt_lt ht h⟩)
        | .ok (true, ⟨t, ht⟩) =>
          have hs : t.length < s.length := Remainder.lt_of_lt_lt ht h
          (readMembers (depth - 1) t).map fun (members, ⟨u, hu⟩) =>
            (.ofMembers members, ⟨u, Remainder.lt_of_lt_lt hu hs⟩)
    else (readScalar c r).map fun (v, ⟨t, ht⟩) => (v, ⟨t, Remainder.lt_of_le_lt ht h⟩)
termination_by (s.length, 0)

/-- The elements of an array from the one with index `index` on, and the text behind the
array. -/
def readItems (depth index : Nat) (s : List Char) : Except Fault (List Value × Shorter s) :=
  match readValue depth s with
  | .error f => .error (f.under (.index index))
  | .ok (v, ⟨r, hr⟩) =>
    match readSeparator ']' .endOfList .expectedListCommaOrEnd r with
    | .error f => .error f
    | .ok (false, ⟨t, ht⟩) => .ok ([v], ⟨t, Remainder.lt_of_lt_lt ht hr⟩)
    | .ok (true, ⟨t, ht⟩) =>
      have hs : t.length < s.length := Remainder.lt_of_lt_lt ht hr
      match nextItem t with
      | .error f => .error f
      | .ok ⟨u, hu⟩ =>
        have hs' : u.length < s.length := Remainder.lt_of_le_lt hu hs
        (readItems depth (index + 1) u).map fun (vs, ⟨w, hw⟩) =>
          (v :: vs, ⟨w, Remainder.lt_of_lt_lt hw hs'⟩)
termination_by (s.length, 1)

/-- The members of an object from the one on whose name starts here, behind its opening quote,
and the text behind the object. -/
def readMembers (depth : Nat) (s : List Char) :
    Except Fault (List (String × Value) × Shorter s) :=
  match readString s with
  | .error f => .error (f.under .unknown)
  | .ok (name, ⟨r, hr⟩) =>
    match readColon r with
    | .error f => .error f
    | .ok ⟨t, ht⟩ =>
      have hs : t.length < s.length := Remainder.lt_of_lt_lt ht hr
      match readValue depth t with
      | .error f => .error (f.under (.key (String.ofList name)))
      | .ok (v, ⟨u, hu⟩) =>
        have hs' : u.length < s.length := Remainder.lt_of_lt_lt hu hs
        match readSeparator '\x7d' .endOfObject .expectedObjectCommaOrEnd u with
        | .error f => .error (f.under .unknown)
        | .ok (false, ⟨w, hw⟩) =>
          .ok ([(String.ofList name, v)], ⟨w, Remainder.lt_of_lt_lt hw hs'⟩)
        | .ok (true, ⟨w, hw⟩) =>
          have hs'' : w.length < s.length := Remainder.lt_of_lt_lt hw hs'
          match nextKey w with
          | .error f => .error (f.under .unknown)
          | .ok ⟨x, hx⟩ =>
            have hx' : x.length < s.length := Remainder.lt_of_lt_lt hx hs''
            (readMembers depth x).map fun (ms, ⟨y, hy⟩) =>
              ((String.ofList name, v) :: ms, ⟨y, Remainder.lt_of_lt_lt hy hx'⟩)
termination_by (s.length, 0)

end

/-- The part of a reader that follows the document: only white space may stand there. -/
def finish {α : Type} (text : List Char) (result : Except Fault (α × List Char)) :
    Except LocatedFault α :=
  match result with
  | .error f => .error ⟨f.cause, some f.path, f.positionIn text⟩
  | .ok (v, rest) =>
    match (skipSpace rest).1 with
    | [] => .ok v
    | c :: r =>
      let f := Fault.within .trailingCharacters (c :: r)
      .error ⟨f.cause, none, f.positionIn text⟩

/-- The value of a JSON document. -/
def read (text : String) : Except LocatedFault Value :=
  finish text.toList ((readValue depthLimit text.toList).map fun (v, r) => (v, r.1))

end Specimen.Json
