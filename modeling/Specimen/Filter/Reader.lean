import Specimen.Filter.Expression
import Specimen.Filter.Token

set_option autoImplicit false

/-! # Reading filters

A filter is read from its tokens. Binary operators are, from the loosest to the tightest: `|`;
`,`; `//`; `or`; `and`; `==` and `!=`; the comparisons by order; `+`. Of these `|` and `//` group
to the right, the others to the left. A filter may be followed by the steps of a path. A `?`
behind a step makes it lenient; behind a filter without steps it ends the results at the first
failure.

Only a part of the jq language is read (see `Specimen.Filter.Expression`):

* `.`, `.a`, `.["a"]`, `.[n]`, `.[i:j]`, `.[]` and paths of such steps behind any filter, with `?`;
* numbers, strings without filters inside them, `[…]`, `{a: …}` and its short forms;
* the binary operators above, the sign `-`, parentheses, and `if … then … elif … else … end`;
* the names in `named?`.

A text outside that part is read as no filter, like one that breaks the grammar. In the whole
language it may be one: `1 - 1`, `.a as $x | $x`, `try .a`, `to_entries` are filters with results
there, and have none here.
-/

namespace Specimen.Filter

namespace Expression

/-! ## Named filters -/

/-- A fixed number. -/
def integer (i : Int64) : Expression := .constant (.number (.integer i))

/-- The parts of the datum itself to which one step leads. -/
def part (selector : Selector Expression) : Expression := .path .identity [⟨false, selector⟩]

/-- The truth value that a datum does not have. -/
def not : Expression := .condition .identity (.constant (.bool false)) (.constant (.bool true))

/-- A filter for each part of an array, in an array. -/
def map (f : Expression) : Expression := .collect (.pipe (part .all) f)

/-- A datum for which a filter holds. -/
def select (f : Expression) : Expression := .condition f .identity .empty

/-- The filter with a name and arguments, if there is one among those that are covered. The
language's library has many more names. -/
def named? (name : String) (arguments : List Expression) : Option Expression :=
  match name, arguments with
  | "null", [] => some (.constant .null)
  | "true", [] => some (.constant (.bool true))
  | "false", [] => some (.constant (.bool false))
  | "empty", [] => some .empty
  | "error", [] => some (.raise .identity)
  | "error", [f] => some (.raise f)
  | "length", [] => some .length
  | "keys", [] => some .keys
  | "not", [] => some not
  | "first", [] => some (part (.at (integer 0)))
  | "first", [f] => some (.firstOf f)
  | "last", [] => some (part (.at (integer (-1))))
  | "last", [f] => some (.lastOf f)
  | "map", [f] => some (map f)
  | "select", [f] => some (select f)
  | _, _ => none

end Expression

/-- The words that are part of the grammar and name no filter. -/
def reservedWords : List String :=
  ["if", "then", "elif", "else", "end", "and", "or", "def", "reduce", "foreach", "try", "catch",
    "label", "as", "import", "include"]

/-! ## Operators -/

/-- A binary operator. -/
structure Operator where
  /-- How tightly it binds. -/
  tightness : Nat
  /-- It groups to the right. -/
  groupsRight : Bool
  /-- The filter that it makes of two. -/
  combine : Expression → Expression → Expression

/-- The binary operator that a token is. -/
def operator? : Token → Option Operator
  | .symbol "|" => some ⟨0, true, .pipe⟩
  | .symbol "," => some ⟨1, false, .comma⟩
  | .symbol "//" => some ⟨2, true, .alternative⟩
  | .word "or" => some ⟨3, false, .or⟩
  | .word "and" => some ⟨4, false, .and⟩
  | .symbol "==" => some ⟨5, false, .compare .equal⟩
  | .symbol "!=" => some ⟨5, false, .compare .notEqual⟩
  | .symbol "<" => some ⟨6, false, .compare .less⟩
  | .symbol "<=" => some ⟨6, false, .compare .lessOrEqual⟩
  | .symbol ">" => some ⟨6, false, .compare .greater⟩
  | .symbol ">=" => some ⟨6, false, .compare .greaterOrEqual⟩
  | .symbol "+" => some ⟨7, false, .add⟩
  | _ => none

/-- A comma, which separates members inside an object. -/
def isComma (t : Token) : Bool := t = .symbol ","

/-! ## Reading -/

/-- What was read from `s`, and the tokens behind it. -/
abbrev Parsed (α : Type) (s : List Token) : Type :=
  Option (α × { r : List Token // r.length < s.length })

/-- What was read from `s`, if anything had to be, and the tokens behind it. -/
abbrev ParsedFrom (α : Type) (s : List Token) : Type :=
  Option (α × { r : List Token // r.length ≤ s.length })

/-- The tokens behind the token `t`. -/
def behind? (t : Token) : (s : List Token) → Option { r : List Token // r.length < s.length }
  | [] => none
  | u :: r => if u = t then some ⟨r, Nat.lt_succ_self _⟩ else none

/-- Whether question marks follow, and the tokens behind them. -/
def takeMarks : (s : List Token) → Bool × { r : List Token // r.length ≤ s.length }
  | [] => (false, ⟨[], Nat.le_refl _⟩)
  | t :: r =>
    if t = .symbol "?" then (true, ⟨(takeMarks r).2.1, Nat.le_succ_of_le (takeMarks r).2.2⟩)
    else (false, ⟨t :: r, Nat.le_refl _⟩)

/-- A filter, up to its first failure if question marks follow it, and the tokens behind them. -/
def attempted (e : Expression) (s : List Token) :
    Expression × { r : List Token // r.length ≤ s.length } :=
  let (isMarked, r) := takeMarks s
  (if isMarked then .attempt e else e, r)

/-- A step, lenient if question marks follow it, and the tokens behind them. -/
def marked (selector : Selector Expression) (s : List Token) :
    Step Expression × { r : List Token // r.length ≤ s.length } :=
  let (isMarked, r) := takeMarks s
  (⟨isMarked, selector⟩, r)

/-- The part with a name. -/
def byName (name : String) : Selector Expression := .at (.constant (.text name))

/-- The step to the part with a name that starts here, if one does, and the tokens behind it: the
name is part of the point's token, or a string behind a point. -/
def readName? (s : List Token) : Parsed (Step Expression) s :=
  match s with
  | .field name :: r =>
    let (step, ⟨t, ht⟩) := marked (byName name) r
    some (step, ⟨t, Nat.lt_succ_of_le ht⟩)
  | .symbol w :: .text name :: r =>
    if w = "." then
      let (step, ⟨t, ht⟩) := marked (byName name) r
      some (step, ⟨t, by simp; omega⟩)
    else none
  | _ => none

/-- The name of an object's member that a token is. -/
def nameOf? : Token → Option String
  | .word w => some w
  | .text t => some t
  | _ => none

/-- A member of an object that is given by its name alone. -/
def namedEntry (name : String) : Expression :=
  .entry (.constant (.text name)) (.part (byName name))

mutual

/-- A filter whose operators bind at least as tightly as `tightness`. Outside of brackets, commas
are operators only if `commas` holds. -/
def readBinary (tightness : Nat) (commas : Bool) (s : List Token) : Parsed Expression s := do
  let (first, ⟨r, hr⟩) ← readUnary s
  let (e, ⟨t, ht⟩) ← readOperands tightness commas first r
  return (e, ⟨t, by omega⟩)
termination_by (s.length, 3)

/-- A filter that continues `first` by operators that bind at least as tightly as
`tightness`. -/
def readOperands (tightness : Nat) (commas : Bool) (first : Expression) (s : List Token) :
    ParsedFrom Expression s :=
  match s with
  | [] => some (first, ⟨[], Nat.le_refl _⟩)
  | t :: r =>
    match operator? t with
    | none => some (first, ⟨t :: r, Nat.le_refl _⟩)
    | some op =>
      if op.tightness < tightness || (isComma t && !commas) then
        some (first, ⟨t :: r, Nat.le_refl _⟩)
      else do
        let next := if op.groupsRight then op.tightness else op.tightness + 1
        let (second, ⟨u, hu⟩) ← readBinary next commas r
        have : u.length < r.length + 1 := Nat.lt_succ_of_lt hu
        let (e, ⟨v, hv⟩) ← readOperands tightness commas (op.combine first second) u
        return (e, ⟨v, by simp; omega⟩)
termination_by (s.length, 0)

/-- A filter without binary operators. -/
def readUnary (s : List Token) : Parsed Expression s :=
  match s with
  | [] => none
  | t :: r =>
    if t = .symbol "-" then do
      let (e, ⟨u, hu⟩) ← readUnary r
      return (.negate e, ⟨u, Nat.lt_succ_of_lt hu⟩)
    else
      match readName? (t :: r) with
      | some (step, ⟨u, hu⟩) => do
        let (steps, ⟨v, hv⟩) ← readSteps u
        return (.path .identity (step :: steps), ⟨v, by omega⟩)
      | none => do
        let (e, ⟨u, hu⟩) ← readAtom t r
        have : u.length < r.length + 1 := Nat.lt_succ_of_le hu
        let (steps, ⟨v, hv⟩) ← readSteps u
        return (if steps.isEmpty then e else .path e steps, ⟨v, by simp; omega⟩)
termination_by (s.length, 2)

/-- A filter without operators and steps, from its first token and the tokens behind it. -/
def readAtom (t : Token) (r : List Token) : ParsedFrom Expression r := do
  match t with
  | .number text => attempted (.constant (.number (Numeric.ofText text))) r
  | .text value => attempted (.constant (.text value)) r
  | .field _ => none
  | .word w =>
    if w = "if" then
      let (e, ⟨u, hu⟩) ← readCondition r
      let (f, ⟨v, hv⟩) := attempted e u
      return (f, ⟨v, by omega⟩)
    else if reservedWords.contains w then none
    else
      let (arguments, ⟨u, hu⟩) ← readArguments r
      let e ← Expression.named? w arguments
      let (f, ⟨v, hv⟩) := attempted e u
      return (f, ⟨v, by omega⟩)
  | .symbol w =>
    if w = "." then attempted .identity r
    else if w = "(" then
      let (e, ⟨u, hu⟩) ← readBinary 0 true r
      let ⟨v, hv⟩ ← behind? (.symbol ")") u
      let (f, ⟨x, hx⟩) := attempted e v
      return (f, ⟨x, by omega⟩)
    else if w = "[" then
      let (e, ⟨u, hu⟩) ← readItems r
      let (f, ⟨x, hx⟩) := attempted e u
      return (f, ⟨x, by omega⟩)
    else if w = "\x7b" then
      let (e, ⟨u, hu⟩) ← readObject r
      let (f, ⟨x, hx⟩) := attempted e u
      return (f, ⟨x, by omega⟩)
    else none
termination_by (r.length, 7)

/-- The content of an array, whose opening bracket has been taken. -/
def readItems (s : List Token) : Parsed Expression s :=
  match behind? (.symbol "]") s with
  | some r => some (.collect .empty, r)
  | none => do
    let (e, ⟨r, hr⟩) ← readBinary 0 true s
    let ⟨t, ht⟩ ← behind? (.symbol "]") r
    return (.collect e, ⟨t, by omega⟩)
termination_by (s.length, 4)

/-- The content of an object, whose opening brace has been taken. -/
def readObject (s : List Token) : Parsed Expression s :=
  match behind? (.symbol "\x7d") s with
  | some r => some (.constant (.object []), r)
  | none => readEntries s
termination_by (s.length, 6)

/-- The members of an object from one of them on, and the brace behind them. A comma may stand in
front of the brace. -/
def readEntries (s : List Token) : Parsed Expression s := do
  let (first, ⟨r, hr⟩) ← readEntry s
  match behind? (.symbol "\x7d") r with
  | some ⟨t, ht⟩ => return (first, ⟨t, by omega⟩)
  | none =>
    let ⟨t, ht⟩ ← behind? (.symbol ",") r
    have : t.length < s.length := by omega
    match behind? (.symbol "\x7d") t with
    | some ⟨u, hu⟩ => return (first, ⟨u, by omega⟩)
    | none =>
      let (others, ⟨u, hu⟩) ← readEntries t
      return (.add first others, ⟨u, by omega⟩)
termination_by (s.length, 5)

/-- A member of an object: a name and a filter, a name alone, or filters for both. -/
def readEntry (s : List Token) : Parsed Expression s :=
  match s with
  | [] => none
  | t :: r =>
    match nameOf? t with
    | some name =>
      match behind? (.symbol ":") r with
      | none => some (namedEntry name, ⟨r, Nat.lt_succ_self _⟩)
      | some ⟨u, hu⟩ => do
        have : u.length < r.length + 1 := Nat.lt_succ_of_lt hu
        let (value, ⟨v, hv⟩) ← readBinary 0 false u
        return (.entry (.constant (.text name)) value, ⟨v, by simp; omega⟩)
    | none =>
      if t = .symbol "(" then do
        let (name, ⟨u, hu⟩) ← readBinary 0 true r
        let ⟨v, hv⟩ ← behind? (.symbol ")") u
        let ⟨w, hw⟩ ← behind? (.symbol ":") v
        have : w.length < r.length + 1 := by omega
        let (value, ⟨x, hx⟩) ← readBinary 0 false w
        return (.entry name value, ⟨x, by simp; omega⟩)
      else none
termination_by (s.length, 4)

/-- The arguments of a named filter, if there are any. -/
def readArguments (s : List Token) : ParsedFrom (List Expression) s :=
  match behind? (.symbol "(") s with
  | none => some ([], ⟨s, Nat.le_refl _⟩)
  | some ⟨r, hr⟩ => do
    let (arguments, ⟨t, ht⟩) ← readArgumentList r
    return (arguments, ⟨t, by omega⟩)
termination_by (s.length, 4)

/-- The arguments of a named filter from one of them on, and the parenthesis behind them. -/
def readArgumentList (s : List Token) : Parsed (List Expression) s := do
  let (first, ⟨r, hr⟩) ← readBinary 0 true s
  match behind? (.symbol ")") r with
  | some ⟨t, ht⟩ => return ([first], ⟨t, by omega⟩)
  | none =>
    let ⟨t, ht⟩ ← behind? (.symbol ";") r
    have : t.length < s.length := by omega
    let (others, ⟨u, hu⟩) ← readArgumentList t
    return (first :: others, ⟨u, by omega⟩)
termination_by (s.length, 4)

/-- A condition, whose first word has been taken. Without a second branch the datum itself is
the result. -/
def readCondition (s : List Token) : Parsed Expression s := do
  let (test, ⟨r, hr⟩) ← readBinary 0 true s
  let ⟨t, ht⟩ ← behind? (.word "then") r
  have : t.length < s.length := by omega
  let (yes, ⟨u, hu⟩) ← readBinary 0 true t
  have : u.length < s.length := by omega
  let (no, ⟨v, hv⟩) ← readOtherwise u
  return (.condition test yes no, ⟨v, by omega⟩)
termination_by (s.length, 4)

/-- The second branch of a condition and its end. -/
def readOtherwise (s : List Token) : Parsed Expression s :=
  match behind? (.word "end") s with
  | some r => some (.identity, r)
  | none =>
    match behind? (.word "elif") s with
    | some ⟨r, hr⟩ => do
      let (e, ⟨t, ht⟩) ← readCondition r
      return (e, ⟨t, by omega⟩)
    | none => do
      let ⟨r, hr⟩ ← behind? (.word "else") s
      let (no, ⟨t, ht⟩) ← readBinary 0 true r
      let ⟨u, hu⟩ ← behind? (.word "end") t
      return (no, ⟨u, by omega⟩)
termination_by (s.length, 4)

/-- The steps of a path that start here. A point that starts no step is refused. -/
def readSteps (s : List Token) : ParsedFrom (List (Step Expression)) s :=
  match readName? s with
  | some (step, ⟨r, hr⟩) => do
    let (steps, ⟨t, ht⟩) ← readSteps r
    return (step :: steps, ⟨t, by omega⟩)
  | none =>
    match behind? (.symbol "[") s with
    | some ⟨r, hr⟩ => do
      let (selector, ⟨t, ht⟩) ← readSelector r
      let (step, ⟨u, hu⟩) := marked selector t
      have : u.length < s.length := by omega
      let (steps, ⟨v, hv⟩) ← readSteps u
      return (step :: steps, ⟨v, by omega⟩)
    | none => if s.head? = some (.symbol ".") then none else some ([], ⟨s, Nat.le_refl _⟩)
termination_by (s.length, 1)

/-- A selector in brackets, whose opening bracket has been taken: of all parts, of one part or
of those between two bounds. -/
def readSelector (s : List Token) : Parsed (Selector Expression) s :=
  match behind? (.symbol "]") s with
  | some r => some (.all, r)
  | none =>
    match behind? (.symbol ":") s with
    | some ⟨r, hr⟩ => do
      let (high, ⟨t, ht⟩) ← readBinary 0 true r
      let ⟨u, hu⟩ ← behind? (.symbol "]") t
      return (.between none (some high), ⟨u, by omega⟩)
    | none => do
      let (low, ⟨r, hr⟩) ← readBinary 0 true s
      let (selector, ⟨t, ht⟩) ← readBound low r
      return (selector, ⟨t, by omega⟩)
termination_by (s.length, 4)

/-- What follows the first index of a selector: its end, or another bound. -/
def readBound (low : Expression) (s : List Token) : Parsed (Selector Expression) s :=
  match behind? (.symbol "]") s with
  | some r => some (.at low, r)
  | none => do
    let ⟨r, hr⟩ ← behind? (.symbol ":") s
    match behind? (.symbol "]") r with
    | some ⟨t, ht⟩ => return (.between (some low) none, ⟨t, by omega⟩)
    | none =>
      let (high, ⟨t, ht⟩) ← readBinary 0 true r
      let ⟨u, hu⟩ ← behind? (.symbol "]") t
      return (.between (some low) (some high), ⟨u, by omega⟩)
termination_by (s.length, 4)

end

/-- The filter that a text denotes. -/
def Expression.ofText? (text : String) : Option Expression := do
  let s ← tokens? text.toList
  let (e, ⟨r, _⟩) ← readBinary 0 true s
  if r.isEmpty then some e else none

end Specimen.Filter
