import Specimen.Proofs.Command.Inputs
import Specimen.Proofs.Json.Rereading

set_option autoImplicit false

/-! # Paths into document trees

The members and the elements of a JSON value are the children of its document tree, under their
names and under the numerals of their indices. So a part can be selected before the value becomes a
tree or afterwards: following tokens in the value, and going down by the same names in its tree, end
at the same part (`descend?_ofJson`).

What has to be shown for arrays is that the names of their children are just the tokens which are
read as indices (`indexOfToken?_eq_some_iff`): digits without a leading zero are the numeral of the
number that they denote. For objects, tokens that look like numerals are names like all others.
-/

namespace Specimen.Json

open Specimen.Document Specimen.Number

/-! ## Tokens that are indices -/

theorem natText_digitValue {c : Char} (hc : c.isDigit = true) :
    natText (Decimal.digitValue c) = [c] := by
  have hvalue := digitValue_le hc
  have hlow : 48 ≤ c.toNat := by
    simp only [Char.isDigit, Bool.and_eq_true, decide_eq_true_eq] at hc
    exact hc.1
  have hnat : (Nat.digitChar (Decimal.digitValue c)).toNat = c.toNat := by
    rw [Nat.toNat_digitChar_of_lt_ten (by omega)]
    show 48 + (c.toNat - 48) = c.toNat
    omega
  rw [natText, Nat.toDigits_of_lt_base (by omega), Char.toNat_inj.mp hnat]

/-- Digits behind the numeral of a number that is not zero make a longer numeral. -/
theorem natText_append_digits {ds : List Char} (hds : ∀ c ∈ ds, c.isDigit = true) {n : Nat}
    (hn : 0 < n) : natText n ++ ds = natText (extend n ds) := by
  induction ds generalizing n with
  | nil => rw [List.append_nil]; rfl
  | cons c ds ih =>
      rw [List.forall_mem_cons] at hds
      have hvalue := digitValue_le hds.1
      have hlonger : natText n ++ [c] = natText (10 * n + Decimal.digitValue c) := by
        rw [← natText_digitValue hds.1]
        exact Nat.toDigits_append_toDigits (by decide) hn (by omega)
      have hrest := ih hds.2 (n := 10 * n + Decimal.digitValue c) (by omega)
      calc natText n ++ c :: ds
          = (natText n ++ [c]) ++ ds := by simp
        _ = natText (extend (10 * n + Decimal.digitValue c) ds) := by rw [hlonger, hrest]
        _ = natText (extend n (c :: ds)) := by rw [Nat.mul_comm]; rfl

/-- **Digits without a leading zero are the numeral of their number.** -/
theorem natText_natOfDigits {ds : List Char} (hds : IsDigits ds) (hlead : NoLeadingZero ds) :
    natText (Decimal.natOfDigits ds) = ds := by
  obtain ⟨c, r, rfl⟩ := List.exists_cons_of_ne_nil hds.1
  have hdigits := List.forall_mem_cons.mp hds.2
  by_cases hzero : c = '0'
  · rw [hlead (by rw [hzero]; rfl)]
    rfl
  · have hpos := digitValue_pos hdigits.1 hzero
    have hlonger := natText_append_digits hdigits.2 hpos
    rw [natText_digitValue hdigits.1] at hlonger
    have hvalue : Decimal.natOfDigits (c :: r) = extend (Decimal.digitValue c) r := by
      show extend 0 (c :: r) = _
      simp [extend]
    rw [hvalue, ← hlonger]
    rfl

theorem natText_injective : Function.Injective natText := by
  intro m n h
  rw [← natOfDigits_natText m, h, natOfDigits_natText]

/-- A token is read as an index exactly if it consists of digits without a leading zero. -/
theorem indexOfToken?_eq_some_iff_digits {token : List Char} {i : Nat} :
    indexOfToken? token = some i ↔
      IsDigits token ∧ NoLeadingZero token ∧ Decimal.natOfDigits token = i := by
  unfold indexOfToken?
  split
  · simp [IsDigits]
  · have hzero : Decimal.natOfDigits ['0'] = 0 := rfl
    simp [IsDigits, NoLeadingZero, hzero]
  · next token c r hnotZero =>
      have hlead : NoLeadingZero (c :: r) ↔ c ≠ '0' := by
        constructor
        · intro h hc
          exact hnotZero hc (List.cons.inj (h (congrArg some hc))).2
        · intro h hc
          exact absurd (Option.some.inj hc) h
      have hdigits : IsDigits (c :: r) ↔ c.isDigit = true ∧ r.all Char.isDigit = true := by
        simp [IsDigits]
      rw [hlead, hdigits]
      by_cases h : c ≠ '0' ∧ c.isDigit = true ∧ r.all Char.isDigit = true
      · rw [if_pos h, Option.some.injEq]
        tauto
      · rw [if_neg h]
        simp only [reduceCtorEq, false_iff]
        tauto

/-- **The tokens that are read as indices are the numerals.** -/
theorem indexOfToken?_eq_some_iff {token : List Char} {i : Nat} :
    indexOfToken? token = some i ↔ token = natText i := by
  rw [indexOfToken?_eq_some_iff_digits]
  constructor
  · rintro ⟨hdigits, hlead, rfl⟩
    exact (natText_natOfDigits hdigits hlead).symm
  · rintro rfl
    exact ⟨isDigits_natText i, noLeadingZero_natText i, natOfDigits_natText i⟩

end Specimen.Json

namespace Specimen.Document

open Specimen.Json Specimen.Number

/-! ## Going down in a tree -/

/-- The first child with a name. -/
def Element.child? (e : Element) (name : String) : Option Element :=
  match e with
  | .scalar _ => none
  | .container _ _ children => children.lookup name

/-- What is reached by going down by names, one after the other. -/
def Element.descend? (e : Element) (names : List String) : Option Element :=
  names.foldlM Element.child? e

/-- What is reached by going down by the tokens of a pointer. -/
def Element.pointer? (e : Element) (pointer : String) : Option Element :=
  (pointerTokens? pointer.toList).bind fun tokens => e.descend? (tokens.map String.ofList)

theorem lookup_ofMembers (name : String) (members : List (String × Value)) :
    (Element.ofMembers members).lookup name = (members.lookup name).map Element.ofJson := by
  induction members with
  | nil => rfl
  | cons m ms ih =>
      obtain ⟨first, v⟩ := m
      rw [Element.ofMembers, List.lookup_cons, List.lookup_cons, ih]
      cases name == first <;> rfl

/-- Among the elements of an array, each is found under the numeral of its index. -/
theorem lookup_ofItems_indexName (items : List Value) (start i : Nat) :
    (Element.ofItems start items).lookup (indexName (start + i))
      = (items[i]?).map Element.ofJson := by
  induction items generalizing start i with
  | nil => rfl
  | cons v vs ih =>
      rw [Element.ofItems, List.lookup_cons]
      cases i with
      | zero => simp
      | succ i =>
          have hname : (indexName (start + (i + 1)) == indexName start) = false := by
            rw [beq_eq_false_iff_ne]
            intro h
            have hindex := natText_injective (String.ofList_injective h)
            omega
          have hnext : start + (i + 1) = (start + 1) + i := by omega
          rw [hname, hnext, ih (start + 1) i]
          rfl

/-- Nothing else is found there. -/
theorem lookup_ofItems_eq_none {name : String} (h : ∀ i, name ≠ indexName i) (items : List Value)
    (start : Nat) : (Element.ofItems start items).lookup name = none := by
  induction items generalizing start with
  | nil => rfl
  | cons v vs ih =>
      rw [Element.ofItems, List.lookup_cons, beq_eq_false_iff_ne.mpr (h start)]
      exact ih (start + 1)

/-- **A token selects the same in a value and in its tree.** -/
theorem child?_ofJson (v : Value) (token : List Char) :
    (Element.ofJson v).child? (String.ofList token) = (v.step? token).map Element.ofJson := by
  cases v with
  | object members => exact lookup_ofMembers (String.ofList token) members
  | array items =>
      cases hindex : indexOfToken? token with
      | none =>
          have hname : ∀ i, String.ofList token ≠ indexName i := by
            intro i h
            rw [indexOfToken?_eq_some_iff.mpr (String.ofList_injective h)] at hindex
            cases hindex
          rw [Value.step?, hindex]
          exact lookup_ofItems_eq_none hname items 0
      | some i =>
          have hitem := lookup_ofItems_indexName items 0 i
          rw [Nat.zero_add] at hitem
          rw [Value.step?, hindex, indexOfToken?_eq_some_iff.mp hindex]
          exact hitem
  | _ => rfl

theorem descend?_ofJson (v : Value) (tokens : List (List Char)) :
    (Element.ofJson v).descend? (tokens.map String.ofList)
      = (v.follow? tokens).map Element.ofJson := by
  induction tokens generalizing v with
  | nil => rfl
  | cons token tokens ih =>
      rw [Element.descend?, Value.follow?, List.map_cons, List.foldlM_cons, List.foldlM_cons,
        child?_ofJson]
      cases v.step? token with
      | none => rfl
      | some w => exact ih w

theorem pointer?_ofJson (v : Value) (pointer : String) :
    (Element.ofJson v).pointer? pointer = (v.pointer? pointer).map Element.ofJson := by
  rw [Element.pointer?, Value.pointer?]
  cases pointerTokens? pointer.toList with
  | none => rfl
  | some tokens => exact descend?_ofJson v tokens

/-! ## Where nothing is selected -/

/-- A token selects nothing from a value. -/
inductive Misses : Value → List Char → Prop
  /-- The value has no parts. -/
  | scalar {v : Value} {s : Scalar} {token : List Char} (h : Element.ofJson v = .scalar s) :
      Misses v token
  /-- The object has no member of this name. -/
  | member {members : List (String × Value)} {token : List Char}
      (h : ∀ m ∈ members, m.1 ≠ String.ofList token) : Misses (.object members) token
  /-- The token is no index: it has a sign, a leading zero, another character that is no digit, or
  no character at all. -/
  | index {items : List Value} {token : List Char} (h : ¬ (IsDigits token ∧ NoLeadingZero token)) :
      Misses (.array items) token
  /-- The array is too short. -/
  | range {items : List Value} {token : List Char}
      (h : items.length ≤ Decimal.natOfDigits token) : Misses (.array items) token

theorem step?_eq_none_iff (v : Value) (token : List Char) :
    v.step? token = none ↔ Misses v token := by
  cases v with
  | object members =>
      rw [Value.step?, List.lookup_eq_none_iff]
      constructor
      · intro h
        refine Misses.member fun m hm heq => ?_
        simpa [heq] using h m hm
      · intro h m hm
        cases h with
        | member h => simpa using (h m hm).symm
        | scalar h => cases h
  | array items =>
      rw [Value.step?]
      constructor
      · intro h
        by_cases hindex : IsDigits token ∧ NoLeadingZero token
        · have hsome := indexOfToken?_eq_some_iff_digits.mpr ⟨hindex.1, hindex.2, rfl⟩
          rw [hsome] at h
          exact Misses.range (List.getElem?_eq_none_iff.mp h)
        · exact Misses.index hindex
      · intro h
        rw [Option.bind_eq_none_iff]
        intro i hi
        obtain ⟨hdigits, hlead, rfl⟩ := indexOfToken?_eq_some_iff_digits.mp hi
        cases h with
        | index h => exact absurd ⟨hdigits, hlead⟩ h
        | range h => exact List.getElem?_eq_none_iff.mpr h
        | scalar h => cases h
  | null => exact iff_of_true rfl (Misses.scalar rfl)
  | bool b => exact iff_of_true rfl (Misses.scalar rfl)
  | number n => exact iff_of_true rfl (Misses.scalar rfl)
  | text t => exact iff_of_true rfl (Misses.scalar rfl)

/-- Following tokens fails exactly if one of them misses what those in front of it select. -/
theorem follow?_eq_none_iff (v : Value) (tokens : List (List Char)) :
    v.follow? tokens = none ↔
      ∃ front token rest part, tokens = front ++ token :: rest ∧ v.follow? front = some part ∧
        Misses part token := by
  induction tokens generalizing v with
  | nil =>
      refine iff_of_false (by simp [Value.follow?]) ?_
      rintro ⟨front, token, rest, part, hsplit, _⟩
      simp at hsplit
  | cons first others ih =>
      have hcons : ∀ tokens, v.follow? (first :: tokens)
          = (v.step? first).bind fun w => w.follow? tokens := fun _ => List.foldlM_cons
      rw [hcons]
      cases hstep : v.step? first with
      | none =>
          refine iff_of_true rfl ⟨[], first, others, v, rfl, rfl, ?_⟩
          exact (step?_eq_none_iff v first).mp hstep
      | some w =>
          show w.follow? others = none ↔ _
          rw [ih w]
          constructor
          · rintro ⟨front, token, rest, part, rfl, hfront, hmiss⟩
            refine ⟨first :: front, token, rest, part, rfl, ?_, hmiss⟩
            rw [hcons, hstep]
            exact hfront
          · rintro ⟨front, token, rest, part, hsplit, hfront, hmiss⟩
            cases front with
            | nil =>
                -- the first token selects something, so it is not the one that misses
                obtain ⟨rfl, rfl⟩ := List.cons.inj hsplit
                cases hfront
                rw [(step?_eq_none_iff v first).mpr hmiss] at hstep
                cases hstep
            | cons head front =>
                obtain ⟨rfl, rfl⟩ := List.cons.inj hsplit
                rw [hcons, hstep] at hfront
                exact ⟨front, token, rest, part, rfl, hfront, hmiss⟩

/-! ## Selecting before and after -/

/-- **A JSON value and its document tree have the same parts in the same places.**

* Going down by names in the tree fails where following the tokens in the value fails, and otherwise
  ends at the tree of the part that they select.
* Both fail exactly if a token on the way misses: at a value without parts, for a member that is not
  there, for a token that is no index, or for an index that is too large.
* So a sample that a pointer selects from an input is what the pointer leads to in the document tree
  of the whole input. -/
theorem ofJson_keeps_paths (v : Value) :
    (∀ tokens : List (List Char),
      (Element.ofJson v).descend? (tokens.map String.ofList)
          = (v.follow? tokens).map Element.ofJson ∧
        ((Element.ofJson v).descend? (tokens.map String.ofList) = none ↔
          ∃ front token rest part, tokens = front ++ token :: rest ∧
            v.follow? front = some part ∧ Misses part token)) ∧
    ∀ pointer : String,
      (Element.ofJson v).pointer? pointer = (v.pointer? pointer).map Element.ofJson ∧
      ∀ (r : Command.Request) (path text : String), r.selection = ⟨some pointer, none⟩ →
        r.formatOf path text = .json → readJson text = .ok v →
        r.sampleOf path text
          = match (Element.ofJson v).pointer? pointer with
            | none => .error (.nothingSelected pointer)
            | some part => .ok part := by
  constructor
  · intro tokens
    have hdescend := descend?_ofJson v tokens
    refine ⟨hdescend, ?_⟩
    rw [hdescend, Option.map_eq_none_iff]
    exact follow?_eq_none_iff v tokens
  · intro pointer
    refine ⟨pointer?_ofJson v pointer, fun r path text hselection hformat hread => ?_⟩
    rw [Command.Request.sampleOf, hformat, hread, hselection, pointer?_ofJson]
    show (Command.Request.select ⟨some pointer, none⟩ v).map Element.ofJson = _
    unfold Command.Request.select
    dsimp only
    cases v.pointer? pointer <;> rfl

/-- A value with an array in which two elements stand. -/
def flaggedRows : Value := .object [("a/b", .array [.null, .bool true])]

/-- A value with a member whose name holds a slash. -/
def slashedMember : Value := .object [("a/b", .object [])]

/-- The text of that value. -/
def slashedText : String := "\x7b\"a/b\":\x7b\x7d\x7d"

/-- A request for the member of a JSON document whose name is `a/b`. -/
def memberRequest : Command.Request where
  product := .classes
  inputs := ["r.json"]
  format := some .json
  selection := ⟨some "/a~1b", none⟩
  naming := .root "p.R"
  options := .standard
  output := none
  isDry := false

theorem ofJson_keeps_paths_slashedMember :
    (Element.ofJson flaggedRows).pointer? "/a~1b/1" = some (Element.ofJson (.bool true)) ∧
      (Element.ofJson flaggedRows).descend? ["a/b", "01"] = none ∧
      memberRequest.sampleOf "r.json" slashedText = .ok (Element.ofJson (.object [])) := by
  obtain ⟨hrows, hpointers⟩ := ofJson_keeps_paths flaggedRows
  refine ⟨(hpointers "/a~1b/1").1, ?_, ?_⟩
  · refine (hrows [['a', '/', 'b'], ['0', '1']]).2.mpr
      ⟨[['a', '/', 'b']], ['0', '1'], [], .array [.null, .bool true], rfl, rfl, Misses.index ?_⟩
    rintro ⟨-, hlead⟩
    cases hlead rfl
  · have hread : readJson slashedText = .ok slashedMember := by
      have hdocument : Json.read slashedText = .ok slashedMember :=
        Json.read_emptyMember rfl (by simp)
      rw [readJson, hdocument]
      rfl
    have hselect := ((ofJson_keeps_paths slashedMember).2 "/a~1b").2 memberRequest "r.json"
      slashedText rfl rfl hread
    rw [hselect]
    rfl

end Specimen.Document
