import Specimen.Filter.Datum

set_option autoImplicit false

/-! # Filters and their results

A filter takes one datum and gives any number of results in order, each of which is a datum or a
failure (`Expression.results`). Two filters are combined by all pairs of their results: for each
result of the first operand all those of the second are taken (`pairwise`).

A path leads from each result of its head to parts of it. What its steps select is chosen first,
in every combination; each choice is then followed as a whole (`choices`, `follow`).

This is a part of the jq language, and only a part: fixed data and the datum itself, paths, arrays
and objects that are built from results, `|`, `,`, `//`, `or`, `and`, the comparisons, `+` and the
sign of a number, conditions, failures and what ends them, and a few operations with names
(`named?` in `Specimen.Filter.Reader`). What the language has besides is left out: the arithmetic
of `-`, `*`, `/` and `%`, variables, filters that are defined by the user, folds, `try`, labels,
assignments, and the rest of the operations that its library names.
-/

namespace Specimen.Filter

open Specimen.Number

/-- A comparison. -/
inductive Comparison
  | equal
  | notEqual
  | less
  | lessOrEqual
  | greater
  | greaterOrEqual

/-- Whether a comparison holds of two data in a given order. -/
def Comparison.holds : Comparison → Ordering → Bool
  | .equal, o => o == .eq
  | .notEqual, o => o != .eq
  | .less, o => o == .lt
  | .lessOrEqual, o => o != .gt
  | .greater, o => o == .gt
  | .greaterOrEqual, o => o != .lt

/-- Which parts of a datum are selected, by keys of some type. -/
inductive Selector (α : Type)
  /-- All parts. -/
  | all
  /-- The part with a name or an index. -/
  | at (key : α)
  /-- The parts between two indices. -/
  | between (low high : Option α)

/-- A step of a path. A lenient step leaves out its failures. -/
structure Step (α : Type) where
  /-- The step leaves out its failures. -/
  lenient : Bool
  /-- What the step selects. -/
  selector : Selector α

/-- A filter of the part of the language that is covered here. -/
inductive Expression
  /-- The datum itself. -/
  | identity
  /-- A fixed datum. -/
  | constant (value : Datum)
  /-- All results in one array. -/
  | collect (items : Expression)
  /-- An object with one member. -/
  | entry (name value : Expression)
  | negate (operand : Expression)
  /-- The results in front of the first failure. -/
  | attempt (operand : Expression)
  /-- The parts of the results of a filter that a path leads to. -/
  | path (head : Expression) (steps : List (Step Expression))
  /-- The results of one filter put through another. -/
  | pipe (first second : Expression)
  /-- The results of one filter and those of another. -/
  | comma (first second : Expression)
  /-- The true results of one filter or, if there are none, the results of another. -/
  | alternative (first second : Expression)
  | or (first second : Expression)
  | and (first second : Expression)
  | compare (comparison : Comparison) (first second : Expression)
  | add (first second : Expression)
  | condition (test yes no : Expression)
  /-- No result. -/
  | empty
  /-- A failure for each result. -/
  | raise (reason : Expression)
  /-- The first result. -/
  | firstOf (results : Expression)
  /-- The last result, or the first failure. -/
  | lastOf (results : Expression)
  /-- The number of parts of a datum. -/
  | length
  /-- The names or indices of the parts of a datum. -/
  | keys

/-- A result of a filter; none is a failure. -/
abbrev Result : Type := Option Datum

/-! ## Operations on data -/

/-- An index that may count from the end, as one from the start; none if it lies before the
start. -/
def fromStart? (i : Int) (length : Nat) : Option Nat :=
  if 0 ≤ i then some i.toNat
  else if length < i.natAbs then none
  else some (length - i.natAbs)

/-- The part of a datum with a name or an index. A part that is not there is null, but only
objects have names and only arrays have indices. -/
def Datum.index (d key : Datum) : Result :=
  match d, key with
  | .array items, .number (.integer i) =>
    some (((fromStart? i.toInt items.length).bind fun n => items[n]?).getD .null)
  | .object members, .text name => some ((members.lookup name).getD .null)
  | _, _ => none

/-- The parts of a datum. -/
def Datum.parts : Datum → List Result
  | .array items => items.map some
  | .object members => members.map fun m => some m.2
  | _ => [none]

/-- A bound of a slice as an index; `default` if it is not given. -/
def bound? (length default : Nat) : Option Datum → Option Nat
  | none => some default
  | some (.number (.integer i)) => some (min ((fromStart? i.toInt length).getD 0) length)
  | some _ => none

/-- The parts of a list between two bounds. -/
def sliceList? {α : Type} (items : List α) (low high : Option Datum) : Option (List α) := do
  let first ← bound? items.length 0 low
  let last ← bound? items.length items.length high
  return (items.drop first).take (last - first)

/-- The part of an array or a text between two bounds. -/
def Datum.slice (d : Datum) (low high : Option Datum) : Result :=
  match d with
  | .array items => (sliceList? items low high).map .array
  | .text t => (sliceList? t.toList low high).map fun cs => .text (String.ofList cs)
  | _ => none

/-- A member written into an object: a name that is there keeps its place. -/
def insertDatum (members : List (String × Datum)) (name : String) (value : Datum) :
    List (String × Datum) :=
  match members with
  | [] => [(name, value)]
  | (n, d) :: r => if n = name then (n, value) :: r else (n, d) :: insertDatum r name value

/-- The sum of two data: numbers are added, texts and arrays are joined, the members of the
second object are written into the first, and null adds nothing. -/
def Datum.add : Datum → Datum → Result
  | .null, d => some d
  | d, .null => some d
  | .number m, .number n => some (.number (m.add n))
  | .text s, .text t => some (.text (s ++ t))
  | .array ds, .array es => some (.array (ds ++ es))
  | .object ms, .object ns =>
    some (.object (ns.foldl (fun done m => insertDatum done m.1 m.2) ms))
  | _, _ => none

/-- The number with the other sign. -/
def Datum.neg : Datum → Result
  | .number n => some (.number n.neg)
  | _ => none

/-- The number of parts of an array or object or of characters of a text, the magnitude of a
number, and zero for null. -/
def Datum.length : Datum → Result
  | .null => some (.number (.integer 0))
  | .bool _ => none
  | .number n => some (.number n.abs)
  | .text t => some (.number (.integer (.ofNat t.length)))
  | .array items => some (.number (.integer (.ofNat items.length)))
  | .object members => some (.number (.integer (.ofNat members.length)))

/-- The names of an object's members in their order, or the indices of an array. -/
def Datum.keys : Datum → Result
  | .array items =>
    some (.array ((List.range items.length).map fun i => .number (.integer (.ofNat i))))
  | .object members => some (.array ((sortByName members).map fun m => .text m.1))
  | _ => none

/-- An object with one member. -/
def Datum.single (name value : Datum) : Result :=
  match name with
  | .text n => some (.object [(n, value)])
  | _ => none

/-! ## Results -/

/-- What comes of each outcome by a function; failures stay. -/
def throughAll {α β : Type} (outcomes : List (Option α)) (f : α → List (Option β)) :
    List (Option β) :=
  outcomes.flatMap fun
    | none => [none]
    | some a => f a

/-- A function of each pair of a first and a second result; a pair with a failure fails. -/
def pairwise (first second : List Result) (f : Datum → Datum → Result) : List Result :=
  first.flatMap fun d => second.map fun e =>
    match d, e with
    | some d, some e => f d e
    | _, _ => none

/-- All data in one array, or the first failure. -/
def collectResults (results : List Result) : Result := (results.mapM id).map .array

/-- The last result, unless one fails. -/
def lastResult (results : List Result) : List Result :=
  if results.any Option.isNone then [none] else results.getLast?.toList

/-- The results that are true or failures. -/
def trueResults (results : List Result) : List Result :=
  results.filter fun
    | none => true
    | some d => d.isTrue

/-! ## Paths -/

/-- The selected parts of a datum. -/
def Selector.parts (s : Selector Datum) (d : Datum) : List Result :=
  match s with
  | .all => d.parts
  | .at key => [d.index key]
  | .between low high => [d.slice low high]

/-- The parts of a datum to which a step leads. -/
def Step.parts (s : Step Datum) (d : Datum) : List Result :=
  if s.lenient then (s.selector.parts d).filter Option.isSome else s.selector.parts d

/-- The parts of a datum to which steps lead. -/
def follow : List (Step Datum) → Datum → List Result
  | [], d => [some d]
  | s :: ss, d => throughAll (s.parts d) (follow ss)

/-! ## Evaluation -/

mutual

/-- The results of a filter for a datum. -/
def Expression.results : Expression → Datum → List Result
  | .identity, d => [some d]
  | .constant value, _ => [some value]
  | .collect items, d => [collectResults (items.results d)]
  | .entry name value, d => pairwise (name.results d) (value.results d) Datum.single
  | .negate operand, d => throughAll (operand.results d) fun e => [e.neg]
  | .attempt operand, d => (operand.results d).takeWhile Option.isSome
  | .path head steps, d =>
    throughAll (head.results d) fun e =>
      throughAll (choices steps d) fun chosen => follow chosen e
  | .pipe first second, d => throughAll (first.results d) fun e => second.results e
  | .comma first second, d => first.results d ++ second.results d
  | .alternative first second, d =>
    match trueResults (first.results d) with
    | [] => second.results d
    | rs => rs
  | .or first second, d =>
    throughAll (first.results d) fun e =>
      if e.isTrue then [some (.bool true)]
      else throughAll (second.results d) fun x => [some (.bool x.isTrue)]
  | .and first second, d =>
    throughAll (first.results d) fun e =>
      if e.isTrue then throughAll (second.results d) fun x => [some (.bool x.isTrue)]
      else [some (.bool false)]
  | .compare comparison first second, d =>
    pairwise (first.results d) (second.results d) fun e x =>
      some (.bool (comparison.holds (e.compare x)))
  | .add first second, d => pairwise (first.results d) (second.results d) Datum.add
  | .condition test yes no, d =>
    throughAll (test.results d) fun e => if e.isTrue then yes.results d else no.results d
  | .empty, _ => []
  | .raise reason, d => (reason.results d).map fun _ => none
  | .firstOf rs, d => (rs.results d).take 1
  | .lastOf rs, d => lastResult (rs.results d)
  | .length, d => [d.length]
  | .keys, d => [d.keys]

/-- What steps may select for a datum: the choices for later steps vary faster. -/
def choices : List (Step Expression) → Datum → List (Option (List (Step Datum)))
  | [], _ => [some []]
  | s :: ss, d =>
    throughAll (stepChoices s d) fun c => throughAll (choices ss d) fun cs => [some (c :: cs)]

/-- What a step may select for a datum. -/
def stepChoices : Step Expression → Datum → List (Option (Step Datum))
  | ⟨lenient, selector⟩, d =>
    throughAll (selectorChoices selector d) fun c => [some ⟨lenient, c⟩]

/-- The values that the keys of a selector have for a datum. -/
def selectorChoices : Selector Expression → Datum → List (Option (Selector Datum))
  | .all, _ => [some .all]
  | .at key, d => throughAll (key.results d) fun k => [some (.at k)]
  | .between low high, d =>
    throughAll (boundChoices low d) fun l =>
      throughAll (boundChoices high d) fun h => [some (.between l h)]

/-- The values that a bound has for a datum; one that is not given has none. -/
def boundChoices : Option Expression → Datum → List (Option (Option Datum))
  | none, _ => [some none]
  | some e, d => throughAll (e.results d) fun k => [some (some k)]

end

end Specimen.Filter
