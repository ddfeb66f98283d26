import Specimen.Inference.Infer
import Specimen.Json.Skip
import Specimen.Json.Writer
import Specimen.Text.Literal

set_option autoImplicit false

/-! # Options as JSON

Options are written as an object with two fields. They are read from an object, in which fields
may be missing and unknown fields are passed over, or from an array of the fields' values in
order. The typing of strings is one of two words, alone or as the only name of an object whose
value is null.
-/

namespace Specimen.Inference

open Specimen.Json Specimen.Text

/-- The word for a typing of strings. -/
def StringTyping.word : StringTyping → String
  | .literal => "literal"
  | .sniff => "sniff"

/-- The JSON value of options. -/
def Options.toJson (o : Options) : Value :=
  .object [("string_typing", .text o.stringTyping.word), ("dedupe", .bool o.merges)]

/-! ## Reading the fields' values -/

/-- The text behind a value, with the proof that it is shorter than the text in front of it. -/
abbrev Reading (α : Type) (s : List Char) : Type := Except Fault (α × Shorter s)

/-- The fault of a value of an unexpected kind, from its first character and the text behind
it: a scalar is read first, an array or object is not. -/
def kindFault (expected : String) (c : Char) (r : List Char) : Fault :=
  if c = '[' then .before (.invalidKind .sequence expected) (c :: r)
  else if c = '\x7b' then .before (.invalidKind .map expected) (c :: r)
  else
    match readScalar c r with
    | .error f => f
    | .ok (v, ⟨t, _⟩) =>
      let found : Found :=
        match v with
        | .bool b => .bool b
        | .number (.integer i) => .integer i
        | .number (.float x) => .float (String.ofList (floatText x))
        | .text cs => .text (String.ofList (shownText cs.toList))
        | _ => .null
      .before (.invalidKind found expected) t

/-- A truth value. -/
def readBool (s : List Char) : Reading Bool s :=
  match skipSpace s with
  | ⟨[], _⟩ => .error (.within .endOfValue [])
  | ⟨c :: r, h⟩ =>
    if c = 't' then
      (readWord ['r', 'u', 'e'] r).map fun ⟨t, ht⟩ => (true, ⟨t, Remainder.lt_of_le_lt ht h⟩)
    else if c = 'f' then
      (readWord ['a', 'l', 's', 'e'] r).map fun ⟨t, ht⟩ => (false, ⟨t, Remainder.lt_of_le_lt ht h⟩)
    else .error (kindFault "a boolean" c r)

/-- A null. -/
def readNull (s : List Char) : Except Fault (Shorter s) :=
  match skipSpace s with
  | ⟨[], _⟩ => .error (.within .endOfValue [])
  | ⟨c :: r, h⟩ =>
    if c = 'n' then
      (readWord ['u', 'l', 'l'] r).map fun ⟨t, ht⟩ => ⟨t, Remainder.lt_of_le_lt ht h⟩
    else .error (kindFault "unit" c r)

/-- The word for a typing of strings, whose opening quote has been taken. -/
def readTypingWord (s : List Char) : Reading StringTyping s :=
  match readString s with
  | .error f => .error f
  | .ok (cs, ⟨r, h⟩) =>
    let word := String.ofList cs
    if word = StringTyping.literal.word then .ok (.literal, ⟨r, h⟩)
    else if word = StringTyping.sniff.word then .ok (.sniff, ⟨r, h⟩)
    else .error (.before (.unknownVariant word) r)

/-- The object form of a typing of strings, whose opening brace has been taken. -/
def readTypingObject (s : List Char) : Reading StringTyping s :=
  match skipSpace s with
  | ⟨[], _⟩ => .error (.within .endOfObject [])
  | ⟨c :: r, h⟩ =>
    if c = '"' then
      match readTypingWord r with
      | .error f => .error f
      | .ok (typing, ⟨t, ht⟩) =>
        have hs : t.length < s.length := Remainder.lt_of_lt_lt ht h
        match readColon t with
        | .error f => .error f
        | .ok ⟨u, hu⟩ =>
          have hs' : u.length < s.length := Remainder.lt_of_lt_lt hu hs
          match readNull u with
          | .error f => .error (f.under (.key typing.word))
          | .ok ⟨v, hv⟩ =>
            have hs'' : v.length < s.length := Remainder.lt_of_lt_lt hv hs'
            match skipSpace v with
            | ⟨[], _⟩ => .error (.before .endOfObject [])
            | ⟨d :: w, hw⟩ =>
              if d = '\x7d' then .ok (typing, ⟨w, Remainder.lt_of_lt_lt hw hs''⟩)
              else .error (.before .expectedValue (d :: w))
    else if c = '\x7d' then .error (.within .expectedValue (c :: r))
    else .error (.within .keyMustBeString (c :: r))

/-- A typing of strings. -/
def readTyping (s : List Char) : Reading StringTyping s :=
  match skipSpace s with
  | ⟨[], _⟩ => .error (.within .endOfValue [])
  | ⟨c :: r, h⟩ =>
    if c = '"' then
      (readTypingWord r).map fun (typing, ⟨t, ht⟩) => (typing, ⟨t, Remainder.lt_of_lt_lt ht h⟩)
    else if c = '\x7b' then
      (readTypingObject r).map fun (typing, ⟨t, ht⟩) => (typing, ⟨t, Remainder.lt_of_lt_lt ht h⟩)
    else .error (.within .expectedValue (c :: r))

/-! ## Reading options -/

/-- The fields that have been read. -/
structure PartialOptions where
  /-- The typing of strings. -/
  stringTyping : Option StringTyping
  /-- The wish for merged classes. -/
  merges : Option Bool

/-- The options, with those that were not given as in `Options.standard`. -/
def PartialOptions.complete (p : PartialOptions) : Options :=
  ⟨p.stringTyping.getD Options.standard.stringTyping, p.merges.getD Options.standard.merges⟩

/-- The text in front of which a repeated field is reported, from the text behind its name: white
space is passed over, and so is the end of the object. -/
def behindRepeated (s : List Char) : List Char :=
  match (skipSpace s).1 with
  | [] => []
  | c :: r => if c = '\x7d' then r else c :: r

/-- The value of the field `name`, from the text behind the name, added to the fields that have
been read. No field is read twice. -/
def readField (name : String) (done : PartialOptions) (s : List Char) :
    Reading PartialOptions s :=
  let isTaken := (name = "string_typing" && done.stringTyping.isSome) ||
    (name = "dedupe" && done.merges.isSome)
  if isTaken then .error (.before (.duplicateField name) (behindRepeated s))
  else
    match readColon s with
    | .error f => .error f
    | .ok ⟨r, hr⟩ =>
      let result : Reading PartialOptions r :=
        if name = "string_typing" then
          (readTyping r).map fun (t, rest) => ({ done with stringTyping := some t }, rest)
        else if name = "dedupe" then
          (readBool r).map fun (b, rest) => ({ done with merges := some b }, rest)
        else (skipValue r).map fun rest => (done, rest)
      match result with
      | .error f => .error (f.under (.key name))
      | .ok (p, ⟨t, ht⟩) => .ok (p, ⟨t, Remainder.lt_of_lt_lt ht hr⟩)

/-- The fields of an object from the one on whose name starts here, behind its opening quote,
added to those that have been read. -/
def readFields (done : PartialOptions) (s : List Char) : Reading PartialOptions s :=
  match readString s with
  | .error f => .error (f.under .unknown)
  | .ok (name, ⟨r, hr⟩) =>
    match readField (String.ofList name) done r with
    | .error f => .error f
    | .ok (p, ⟨t, ht⟩) =>
      have hs : t.length < s.length := Remainder.lt_of_lt_lt ht hr
      match readSeparator '\x7d' .endOfObject .expectedObjectCommaOrEnd t with
      | .error f => .error (f.under .unknown)
      | .ok (false, ⟨u, hu⟩) => .ok (p, ⟨u, Remainder.lt_of_lt_lt hu hs⟩)
      | .ok (true, ⟨u, hu⟩) =>
        have hs' : u.length < s.length := Remainder.lt_of_lt_lt hu hs
        match nextKey u with
        | .error f => .error (f.under .unknown)
        | .ok ⟨v, hv⟩ =>
          have hs'' : v.length < s.length := Remainder.lt_of_lt_lt hv hs'
          (readFields p v).map fun (q, ⟨w, hw⟩) => (q, ⟨w, Remainder.lt_of_lt_lt hw hs''⟩)
termination_by s.length

/-- The end of an array all of whose elements have been read. -/
def readArrayEnd (s : List Char) : Except Fault (Shorter s) :=
  match skipSpace s with
  | ⟨[], _⟩ => .error (.within .endOfList [])
  | ⟨c :: r, h⟩ =>
    if c = ']' then .ok ⟨r, h⟩
    else if c = ',' then
      let t := (skipSpace r).1
      if t.head? = some ']' then .error (.within .trailingComma t)
      else .error (.within .trailingCharacters t)
    else .error (.within .trailingCharacters (c :: r))

/-- The values of the fields in an array, from the first one on. -/
def readValues (s : List Char) : Reading PartialOptions s :=
  match readTyping s with
  | .error f => .error (f.under (.index 0))
  | .ok (typing, ⟨r, hr⟩) =>
    match readSeparator ']' .endOfList .expectedListCommaOrEnd r with
    | .error f => .error f
    | .ok (false, ⟨t, ht⟩) => .ok (⟨some typing, none⟩, ⟨t, Remainder.lt_of_lt_lt ht hr⟩)
    | .ok (true, ⟨t, ht⟩) =>
      have hs : t.length < s.length := Remainder.lt_of_lt_lt ht hr
      match nextItem t with
      | .error f => .error f
      | .ok ⟨u, hu⟩ =>
        have hs' : u.length < s.length := Remainder.lt_of_le_lt hu hs
        match readBool u with
        | .error f => .error (f.under (.index 1))
        | .ok (merges, ⟨v, hv⟩) =>
          have hs'' : v.length < s.length := Remainder.lt_of_lt_lt hv hs'
          (readArrayEnd v).map fun ⟨w, hw⟩ =>
            (⟨some typing, some merges⟩, ⟨w, Remainder.lt_of_lt_lt hw hs''⟩)

/-- The options in front of a text. -/
def readOptions (s : List Char) : Reading PartialOptions s :=
  match skipSpace s with
  | ⟨[], _⟩ => .error (.within .endOfValue [])
  | ⟨c :: r, h⟩ =>
    if c = '[' then
      match firstItem r with
      | .error f => .error f
      | .ok (false, ⟨t, ht⟩) => .ok (⟨none, none⟩, ⟨t, Remainder.lt_of_le_lt ht h⟩)
      | .ok (true, ⟨t, ht⟩) =>
        have hs : t.length < s.length := Remainder.lt_of_le_lt ht h
        (readValues t).map fun (p, ⟨u, hu⟩) => (p, ⟨u, Remainder.lt_of_lt_lt hu hs⟩)
    else if c = '\x7b' then
      match firstKey r with
      | .error f => .error (f.under .unknown)
      | .ok (false, ⟨t, ht⟩) => .ok (⟨none, none⟩, ⟨t, Remainder.lt_of_lt_lt ht h⟩)
      | .ok (true, ⟨t, ht⟩) =>
        have hs : t.length < s.length := Remainder.lt_of_lt_lt ht h
        (readFields ⟨none, none⟩ t).map fun (p, ⟨u, hu⟩) => (p, ⟨u, Remainder.lt_of_lt_lt hu hs⟩)
    else .error (kindFault "struct InferenceOptions" c r)

/-- The options that a JSON document gives. -/
def Options.read (text : String) : Except Failure Options :=
  (finish text.toList ((readOptions text.toList).map fun (p, r) => (p.complete, r.1))).mapError
    .json

end Specimen.Inference
