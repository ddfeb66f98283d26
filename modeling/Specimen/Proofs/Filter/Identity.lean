import Specimen.Filter.Run
import Specimen.Proofs.Command.Inputs
import Specimen.Proofs.Inference.Agreement
import Specimen.Proofs.Json.Compact

set_option autoImplicit false

/-! # The identity filter

The results of a filter are written and read again, so even `.`, which gives what it is given,
changes a value that is not read back. `runOne_identity_of_read` says what it makes of the value of
a document: each binary64 number in it is read back, and nothing else changes. What is read for the
text of a number need not be the number, although the text denotes it, because the reader does not
always give the number nearest to a numeral (`runOne_identity_wholeTie`).

* `Datum.toText_ofJson`: a filter writes a value like the writer of JSON, whose texts
  `toOption_read_compact` is about.
* `ofJson_runOne_identity_iff`: the document tree stays as it is only if each number does. That the
  condition is necessary follows from the trees, which differ where a number does.
* `Request.schemaOf_filteredBy_identity`: a run with the filter, also behind a pointer, infers the
  schema of the run without it.
-/

namespace Specimen.Filter

open Specimen.Command Specimen.Document Specimen.Inference Specimen.Json Specimen.Number

/-! ## The text of a result -/

theorem Numeric.text_ofJson (x : Number) : (Numeric.ofJson x).text = x.text := by
  cases x with
  | float x => rfl
  | integer i =>
      rw [Numeric.ofJson]
      split_ifs with hsmall
      · simp only [isSmall, Bool.and_eq_true, decide_eq_true_eq] at hsmall
        rw [Numeric.text, Int64.toInt_ofInt_of_le hsmall.1 hsmall.2, Number.text]
      · rfl

mutual

/-- A datum is written like the value that it was made of. -/
theorem Datum.toText_ofJson (v : Value) : (Datum.ofJson v).toText = compactText v := by
  match v with
  | .null => rfl
  | .bool true => rfl
  | .bool false => rfl
  | .number x => exact Numeric.text_ofJson x
  | .text t => rfl
  | .array items => rw [Datum.ofJson, Datum.toText, Datum.itemsText_ofItems, compactText]
  | .object members => rw [Datum.ofJson, Datum.toText, Datum.membersText_ofMembers, compactText]

theorem Datum.itemsText_ofItems (vs : List Value) :
    Datum.itemsText (Datum.ofItems vs) = compactItems vs := by
  match vs with
  | [] => rfl
  | [v] => exact Datum.toText_ofJson v
  | v :: w :: vs =>
      have hothers := Datum.itemsText_ofItems (w :: vs)
      rw [compactItems_cons_cons, ← hothers, ← Datum.toText_ofJson v]
      rfl

theorem Datum.membersText_ofMembers (ms : List (String × Value)) :
    Datum.membersText (Datum.ofMembers ms) = compactMembers ms := by
  match ms with
  | [] => rfl
  | [(name, v)] =>
      have hv := Datum.toText_ofJson v
      show quoted name.toList ++ ':' :: (Datum.ofJson v).toText = _
      rw [hv]
      rfl
  | (name, v) :: m :: ms =>
      have hv := Datum.toText_ofJson v
      have hothers := Datum.membersText_ofMembers (m :: ms)
      show quoted name.toList ++ ':' :: (Datum.ofJson v).toText ++
        ',' :: Datum.membersText (Datum.ofMembers (m :: ms)) = _
      rw [hv, hothers]
      rfl

end

/-! ## Reading the filter

One step of each reader is enough, because the point is the only token. -/

theorem tokens?_point : tokens? ['.'] = some [.symbol "."] := by
  rw [tokens?]
  rfl

theorem readSteps_nil : readSteps [] = some ([], ⟨[], Nat.le_refl _⟩) := by
  rw [readSteps]
  rfl

theorem readAtom_point : readAtom (.symbol ".") [] = some (.identity, ⟨[], Nat.le_refl _⟩) := by
  rw [readAtom, if_pos rfl]
  rfl

theorem readUnary_point :
    readUnary [.symbol "."] = some (.identity, ⟨[], Nat.lt_succ_self _⟩) := by
  rw [readUnary, if_neg (by decide)]
  show (readAtom (.symbol ".") [] >>= _) = _
  rw [readAtom_point]
  show (readSteps [] >>= _) = _
  rw [readSteps_nil]
  rfl

theorem ofText?_identity : Expression.ofText? "." = some .identity := by
  show (tokens? ['.'] >>= _) = _
  rw [tokens?_point]
  show (readBinary 0 true [.symbol "."] >>= _) = _
  rw [readBinary, readUnary_point]
  show (readOperands 0 true .identity [] >>= _) >>= _ = _
  rw [readOperands]
  rfl

/-! ## The result of the filter -/

/-- The only result of the identity is what is read from the text of its input. -/
theorem runOne_identity (v : Value) :
    runOne "." v = (Json.read (compact v)).mapError fun _ => .filterResult := by
  have hresult : valueOf (some (Datum.ofJson v))
      = (Json.read (compact v)).mapError fun _ => .filterResult := by
    rw [valueOf, Datum.toText_ofJson]
    rfl
  have hrun : run "." v = (valueOf (some (Datum.ofJson v))).map ([·]) := by
    rw [run, ofText?_identity]
    show [some (Datum.ofJson v)].mapM valueOf = _
    rw [List.mapM_cons, List.mapM_nil]
    cases valueOf (some (Datum.ofJson v)) <;> rfl
  rw [runOne, hrun, hresult]
  cases (Json.read (compact v)).mapError fun _ => Failure.filterResult <;> rfl

/-- **The identity reads the numbers of its input back**, and fails if one of them cannot be
read. -/
theorem runOne_identity_of_isDocument {v : Value} (hv : v.IsDocument depthLimit) :
    runOne "." v = match v.reread? with
      | some w => .ok w
      | none => .error .filterResult := by
  rw [runOne_identity, ← toOption_read_compact hv]
  cases Json.read (compact v) <;> rfl

/-! ## When nothing changes -/

mutual

/-- If reading the numbers of a value back leaves its document tree as it is, it leaves each number
as it is. -/
theorem reread?_of_ofJson_eq {v w : Value} (h : v.reread? = some w)
    (htree : Element.ofJson w = Element.ofJson v) : ∀ x ∈ v.floats, reread? x = some x := by
  match v with
  | .null => simp [Value.floats]
  | .bool b => simp [Value.floats]
  | .number (.integer i) => simp [Value.floats]
  | .number (.float x) =>
      obtain ⟨y, hy, rfl⟩ := Option.map_eq_some_iff.mp h
      have hsame : y = x := by simpa [Element.ofJson, Number.toBinary64] using htree
      simpa [Value.floats, hsame] using hy
  | .text t => simp [Value.floats]
  | .array items =>
      obtain ⟨ws, hws, rfl⟩ := Option.map_eq_some_iff.mp h
      rw [Value.floats]
      exact reread?_of_ofItems_eq hws (by simpa [Element.ofJson] using htree)
  | .object members =>
      obtain ⟨ns, hns, rfl⟩ := Option.map_eq_some_iff.mp h
      rw [Value.floats]
      exact reread?_of_ofMembers_eq hns (by simpa [Element.ofJson] using htree)

theorem reread?_of_ofItems_eq {vs ws : List Value} {index : Nat} (h : rereadItems? vs = some ws)
    (htree : Element.ofItems index ws = Element.ofItems index vs) :
    ∀ x ∈ itemFloats vs, reread? x = some x := by
  match vs with
  | [] => simp [itemFloats]
  | v :: vs =>
      rw [rereadItems?_cons, Option.bind_eq_some_iff] at h
      obtain ⟨w, hw, h⟩ := h
      obtain ⟨ws, hws, rfl⟩ := Option.map_eq_some_iff.mp h
      rw [Element.ofItems, Element.ofItems, List.cons.injEq, Prod.mk.injEq] at htree
      rw [itemFloats, List.forall_mem_append]
      exact ⟨reread?_of_ofJson_eq hw htree.1.2, reread?_of_ofItems_eq hws htree.2⟩

theorem reread?_of_ofMembers_eq {ms ns : List (String × Value)} (h : rereadMembers? ms = some ns)
    (htree : Element.ofMembers ns = Element.ofMembers ms) :
    ∀ x ∈ memberFloats ms, reread? x = some x := by
  match ms with
  | [] => simp [memberFloats]
  | (name, v) :: ms =>
      rw [rereadMembers?_cons, Option.bind_eq_some_iff] at h
      obtain ⟨w, hw, h⟩ := h
      obtain ⟨ns, hns, rfl⟩ := Option.map_eq_some_iff.mp h
      rw [Element.ofMembers, Element.ofMembers, List.cons.injEq, Prod.mk.injEq] at htree
      rw [memberFloats, List.forall_mem_append]
      exact ⟨reread?_of_ofJson_eq hw htree.1.2, reread?_of_ofMembers_eq hns htree.2⟩

end

/-- **The identity changes nothing** exactly if each number of its input is read back. -/
theorem ofJson_runOne_identity_iff {v : Value} (hv : v.IsDocument depthLimit) :
    (runOne "." v).map Element.ofJson = .ok (Element.ofJson v) ↔
      ∀ x ∈ v.floats, reread? x = some x := by
  rw [runOne_identity_of_isDocument hv]
  constructor
  · intro h
    obtain ⟨w, hw, htree⟩ := exists_of_map_eq_ok h
    cases hv? : v.reread? with
    | none =>
        rw [hv?] at hw
        cases hw
    | some u =>
        rw [hv?] at hw
        cases hw
        exact reread?_of_ofJson_eq hv? htree
  · intro h
    rw [Value.reread?_eq_some_self h]
    rfl

end Specimen.Filter

namespace Specimen.Command

open Specimen.Document Specimen.Json

/-! ## Runs with the identity filter -/

/-- The request with a filter that is followed behind its pointer. -/
def Request.filteredBy (r : Request) (filter : String) : Request :=
  { r with selection := { r.selection with filter := some filter } }

/-- A filter is followed behind the pointer. -/
theorem select_filter (pointer : Option String) (filter : String) (v : Value) :
    Request.select ⟨pointer, some filter⟩ v
      = (Request.select ⟨pointer, none⟩ v).bind (Filter.runOne filter) := by
  cases pointer with
  | none => rfl
  | some pointer =>
      unfold Request.select
      dsimp only
      cases v.pointer? pointer <;> rfl

/-- What is selected without a filter may stand in the document, and its numbers are numbers of the
document. -/
theorem isDocument_of_select {depth : Nat} {pointer : Option String} {v part : Value}
    (hv : v.IsDocument depth) (h : Request.select ⟨pointer, none⟩ v = .ok part) :
    part.IsDocument depth ∧ ∀ x ∈ part.floats, x ∈ v.floats := by
  cases pointer with
  | none =>
      cases h
      exact ⟨hv, fun _ hx => hx⟩
  | some pointer =>
      unfold Request.select at h
      dsimp only at h
      cases hpart : v.pointer? pointer with
      | none =>
          rw [hpart] at h
          cases h
      | some w =>
          rw [hpart] at h
          cases h
          exact hv.pointer? hpart

section Identity

variable {r : Request} {text : String} {v : Value}

/-- The identity leaves the sample of an input as it is if each number of the input is read
back. -/
theorem Request.sampleOf_filteredBy_identity (hfilter : r.selection.filter = none)
    (hread : Json.read text = .ok v) (hfloats : ∀ x ∈ v.floats, reread? x = some x) {path : String}
    (hformat : r.formatOf path text = .json) :
    (r.filteredBy ".").sampleOf path text = r.sampleOf path text := by
  have hformat' : (r.filteredBy ".").formatOf path text = .json := hformat
  have hselection : r.selection = ⟨r.selection.pointer, none⟩ := by rw [← hfilter]
  have hselect : Request.select (r.filteredBy ".").selection v = Request.select r.selection v := by
    show Request.select ⟨r.selection.pointer, some "."⟩ v = _
    rw [select_filter, hselection]
    cases hpart : Request.select ⟨r.selection.pointer, none⟩ v with
    | error f => rfl
    | ok part =>
        obtain ⟨hdocument, hsome⟩ := isDocument_of_select (isDocument_of_read hread) hpart
        show Filter.runOne "." part = .ok part
        rw [Filter.runOne_identity_of_isDocument hdocument,
          Value.reread?_eq_some_self fun x hx => hfloats x (hsome x hx)]
  have hjson : readJson text = .ok v := by
    rw [readJson, hread]
    rfl
  rw [Request.sampleOf, Request.sampleOf, hformat, hformat', hjson]
  show (Request.select (r.filteredBy ".").selection v).map _ = (Request.select r.selection v).map _
  rw [hselect]

/-- The identity leaves the schema of an input as it is if each number of the input is read
back. -/
theorem Request.schemaOf_filteredBy_identity (hfilter : r.selection.filter = none)
    (hread : Json.read text = .ok v) (hfloats : ∀ x ∈ v.floats, reread? x = some x)
    {files : Files.Tree} {input : Input} (hfile : files.read input.path.toList = .ok text)
    (hformat : r.formatOf input.path text = .json) :
    (r.filteredBy ".").schemaOf files input = r.schemaOf files input := by
  have hoptions : (r.filteredBy ".").options = r.options := rfl
  rw [Request.schemaOf, Request.schemaOf, hfile, hoptions]
  dsimp only
  rw [Request.sampleOf_filteredBy_identity hfilter hread hfloats hformat]

end Identity

end Specimen.Command

namespace Specimen.Filter

open Specimen.Command Specimen.Document Specimen.Inference Specimen.Json Specimen.Number
open Specimen.Schema

/-! ## Documents through the identity filter -/

/-- **The identity filter reads the numbers of a document back.** For the value of a document

* the only result is the value with each binary64 number replaced by the one that is read for its
  text, and the filter fails if there is none for one of them;
* so the document tree stays the same, bit for bit, exactly if each number is read back;
* the text of a number denotes the number, and if its digits and its power of ten are numbers of the
  format, the number is read back;
* if each number is read back, a run with the filter infers the same schema as one without it. -/
theorem runOne_identity_of_read {text : String} {v : Value} (h : Json.read text = .ok v) :
    (runOne "." v = match v.reread? with
      | some w => .ok w
      | none => .error .filterResult) ∧
    ((runOne "." v).map Element.ofJson = .ok (Element.ofJson v) ↔
      ∀ x ∈ v.floats, reread? x = some x) ∧
    (∀ x ∈ v.floats, ∃ d, Decimal.ofText? (floatText x) = some d ∧ d.nearest = x ∧
      (d.IsShort → reread? x = some x)) ∧
    ∀ (r : Request) (files : Files.Tree) (input : Input),
      r.selection.filter = none → files.read input.path.toList = .ok text →
      r.formatOf input.path text = .json → (∀ x ∈ v.floats, reread? x = some x) →
      (r.filteredBy ".").schemaOf files input = r.schemaOf files input := by
  have hv := isDocument_of_read h
  refine ⟨runOne_identity_of_isDocument hv, ofJson_runOne_identity_iff hv, fun x hx => ?_,
    fun r files input hfilter hfile hformat hfloats =>
      Request.schemaOf_filteredBy_identity hfilter h hfloats hfile hformat⟩
  have hrank := hv.rank_le_of_mem_floats hx
  obtain ⟨n, hn⟩ := exists_writes_floatText hrank
  exact ⟨n.toDecimal, hn.literal.ofText?, hn.nearest, reread?_of_isShort hrank hn.literal.ofText?⟩

theorem runOne_identity_of_read_sevenTens :
    ∃ v, Json.read "7.50e1" = .ok v ∧
      (runOne "." v).map Element.ofJson = .ok (Element.ofJson v) := by
  have hx := Numeral.toNumber_of_neg (n := ⟨false, ['7'], ['5', '0'], some (false, ['1'])⟩)
    rfl rfl (by decide) (by decide) []
  have hread : Json.read "7.50e1" = _ := Json.read_of_readNumeral rfl rfl rfl hx
  obtain ⟨-, hiff, hfloats, -⟩ := runOne_identity_of_read hread
  refine ⟨_, hread, hiff.mpr fun x hx => ?_⟩
  obtain ⟨d, hd, -, hshort⟩ := hfloats x hx
  have htext : Decimal.ofText? (floatText x) = some ⟨false, 750, -1⟩ := by
    rw [Value.floats, List.mem_singleton] at hx
    rw [hx]
    decide +kernel
  obtain rfl : d = ⟨false, 750, -1⟩ := Option.some.inj (hd.symm.trans htext)
  exact hshort (by decide)

/-- A whole number from `2⁵¹` on, so that ten of it are more than `2⁵³`. -/
def wholeTie : Binary64 := ⟨false, 0x432999999999999C, by decide⟩

/-- The number right behind, which is not whole. -/
def besideTie : Binary64 := ⟨false, 0x432999999999999D, by decide⟩

/-- **A number that is not read back**: its text is `3602879701896398.0`, and a tenth of
`36028797018963980`, which is rounded first, is another number. Without the filter the document's
type is that of large integers, and with it that of fractions. -/
theorem runOne_identity_wholeTie :
    Json.read "3602879701896398e0" = .ok (.number (.float wholeTie)) ∧
      runOne "." (.number (.float wholeTie)) = .ok (.number (.float besideTie)) ∧
      (runOne "." (.number (.float wholeTie))).map Element.ofJson
        ≠ .ok (Element.ofJson (.number (.float wholeTie))) ∧
      (infer Options.standard "p.Root" (Element.ofJson (.number (.float wholeTie)))).map
        Schema.root = .ok .long ∧
      (infer Options.standard "p.Root" (Element.ofJson (.number (.float besideTie)))).map
        Schema.root = .ok .double := by
  have hdigits : ∀ c ∈ "3602879701896398".toList, c.isDigit = true := List.all_eq_true.mp rfl
  have hshort := Numeral.float?_of_isShort
    (n := ⟨false, "3602879701896398".toList, [], some (false, ['0'])⟩)
    ⟨hdigits, by simp⟩ (by decide +kernel) (by decide) []
  have hnearest : Decimal.nearest ⟨false, 3602879701896398, 0⟩ = wholeTie := by decide +kernel
  have hread : Json.read "3602879701896398e0" = .ok (.number (.float wholeTie)) := by
    refine Json.read_of_readNumeral
      (n := ⟨false, "3602879701896398".toList, [], some (false, ['0'])⟩) rfl rfl rfl ?_
    rw [Numeral.toNumber, hshort]
    exact congrArg (fun x => Except.ok (Number.float x)) hnearest
  have hreread : reread? wholeTie = some besideTie := by
    have htext : floatText wholeTie = "3602879701896398.0".toList := by decide +kernel
    have hx := Numeral.toNumber_of_neg
      (n := ⟨false, "3602879701896398".toList, ['0'], none⟩) rfl rfl (by decide +kernel)
      (by decide +kernel) []
    have hagain : Json.read (String.ofList "3602879701896398.0".toList) = _ :=
      Json.read_of_readNumeral rfl rfl rfl hx
    have hbeside : Numeral.withSign false ((Binary64.ofNat 36028797018963980).div (powerOfTen 1))
        = besideTie := by decide +kernel
    rw [reread?, htext, hagain]
    exact congrArg some hbeside
  have hresult : runOne "." (.number (.float wholeTie)) = .ok (.number (.float besideTie)) := by
    rw [runOne_identity_of_isDocument (isDocument_of_read hread), Value.reread?, hreread]
    rfl
  refine ⟨hread, hresult, ?_, ?_, ?_⟩
  · rw [hresult]
    intro h
    have hsame : besideTie = wholeTie := by
      simpa [Except.map, Element.ofJson, Number.toBinary64] using h
    exact absurd hsame (by decide)
  · refine (root_infer_scalar rfl (.number wholeTie)).trans (congrArg Except.ok ?_)
    decide +kernel
  · refine (root_infer_scalar rfl (.number besideTie)).trans (congrArg Except.ok ?_)
    decide +kernel

end Specimen.Filter
