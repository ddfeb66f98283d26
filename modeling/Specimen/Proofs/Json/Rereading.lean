import Specimen.Proofs.Json.Documents
import Specimen.Proofs.Json.Written

set_option autoImplicit false

/-! # Reading numbers back

A number literal is read as the number of its numeral wherever it stands, if no number goes on with
the text behind it (`readValue_literal`). So the text of an integer is read back
(`parsed_readValue_intText`), and for the text of another number the reader gives the number of the
numeral that is written (`reread?`, `parsed_readValue_floatText`).

The text denotes the number, but the reader scales its digits with rounded powers of ten. Only if
the digits and the power of ten are numbers of the format it is clear that the number comes back
(`reread?_of_isShort`).
-/

namespace Specimen.Json

open Specimen.Number

/-! ## Reading literals

Each part of a numeral is read in front of a text that does not go on with it. -/

/-- No number goes on with the text. -/
def EndsNumber (rest : List Char) : Prop :=
  ∀ c ∈ rest.head?, c.isDigit = false ∧ c ≠ '.' ∧ ¬ (c = 'e' ∨ c = 'E')

theorem endsNumber_nil : EndsNumber [] := nofun

theorem takeDigits_append {ds rest : List Char} (hds : ∀ c ∈ ds, c.isDigit = true)
    (hrest : ∀ c ∈ rest.head?, c.isDigit = false) :
    ∃ h, takeDigits (ds ++ rest) = (ds, ⟨rest, h⟩) := by
  induction ds with
  | nil =>
      refine ⟨le_rfl, ?_⟩
      cases rest with
      | nil => rfl
      | cons c r =>
          have hc : ¬ c.isDigit = true := ne_true_of_eq_false (hrest c rfl)
          show takeDigits (c :: r) = _
          rw [takeDigits, if_neg hc]
  | cons d ds ih =>
      rw [List.forall_mem_cons] at hds
      obtain ⟨h, htake⟩ := ih hds.2
      refine ⟨Remainder.le_cons h, ?_⟩
      show takeDigits (d :: (ds ++ rest)) = _
      rw [takeDigits, if_pos hds.1, htake]

theorem readWhole_append {ds rest : List Char} (hds : IsDigits ds) (hlead : NoLeadingZero ds)
    (hrest : ∀ c ∈ rest.head?, c.isDigit = false) :
    ∃ h, readWhole (ds ++ rest) = .ok (ds, ⟨rest, h⟩) := by
  obtain ⟨d, ds, rfl⟩ := List.exists_cons_of_ne_nil hds.1
  obtain ⟨hd, hds⟩ := List.forall_mem_cons.mp hds.2
  by_cases hzero : d = '0'
  · obtain rfl : ds = [] := by simpa [hzero] using hlead (congrArg some hzero)
    subst hzero
    refine ⟨Nat.lt_succ_self _, ?_⟩
    show readWhole ('0' :: rest) = _
    unfold readWhole
    dsimp only
    rw [if_pos rfl]
    cases rest with
    | nil => rfl
    | cons c r =>
        have hc : ¬ c.isDigit = true := ne_true_of_eq_false (hrest c rfl)
        dsimp only
        rw [if_neg hc]
  · obtain ⟨h, htake⟩ := takeDigits_append hds hrest
    refine ⟨Remainder.lt_cons_of_le h, ?_⟩
    show readWhole (d :: (ds ++ rest)) = _
    unfold readWhole
    dsimp only
    rw [if_neg hzero, if_pos hd, htake]

theorem readFraction_append {ds f rest : List Char} (hf : IsFraction ds f)
    (hrest : ∀ c ∈ rest.head?, c.isDigit = false ∧ c ≠ '.') :
    ∃ h, readFraction (f ++ rest) = .ok (ds, ⟨rest, h⟩) := by
  cases hf with
  | none =>
      refine ⟨le_rfl, ?_⟩
      show readFraction rest = _
      unfold readFraction
      split
      · exact absurd rfl (hrest '.' rfl).2
      · rfl
  | point hds =>
      obtain ⟨d, ds, rfl⟩ := List.exists_cons_of_ne_nil hds.1
      obtain ⟨h, htake⟩ := takeDigits_append hds.2 fun c hc => (hrest c hc).1
      refine ⟨Remainder.le_cons h, ?_⟩
      show readFraction ('.' :: (d :: ds ++ rest)) = _
      rw [readFraction, htake]

/-- The text of a sign and digits, with other text behind it. -/
theorem takeSign_append {t ds : List Char} {negative : Bool} (hds : IsDigits ds)
    (h : Decimal.takeSign t = (negative, ds)) (rest : List Char) :
    Decimal.takeSign (t ++ rest) = (negative, ds ++ rest) := by
  unfold Decimal.takeSign at h
  split at h <;> cases h
  · rfl
  · rfl
  · obtain ⟨d, ds, rfl⟩ := List.exists_cons_of_ne_nil hds.1
    exact takeSign_of_isDigit (hds.2 d List.mem_cons_self) (ds ++ rest)

theorem readExponent_append {exponent : Option (Bool × List Char)} {e rest : List Char}
    (he : IsExponent exponent e) (hrest : EndsNumber rest) :
    ∃ h, readExponent (e ++ rest) = .ok (exponent, ⟨rest, h⟩) := by
  cases he with
  | none =>
      refine ⟨le_rfl, ?_⟩
      cases rest with
      | nil => rfl
      | cons c r =>
          show readExponent (c :: r) = _
          rw [readExponent, if_neg (hrest c rfl).2.2]
  | @mark mark negative t ds hmark hsign hds =>
      obtain ⟨h, htake⟩ := takeDigits_append hds.2 fun c hc => (hrest c hc).1
      have hread := takeSign_eq_readSign (t ++ rest)
      rw [takeSign_append hds hsign] at hread
      rcases hresult : readSign (t ++ rest) with ⟨sign, ⟨u, hu⟩⟩
      rw [hresult] at hread
      obtain ⟨rfl, rfl⟩ : negative = sign ∧ ds ++ rest = u := by simpa using hread
      refine ⟨Remainder.le_of_le_le_cons h hu, ?_⟩
      show readExponent (mark :: (t ++ rest)) = _
      rw [readExponent, if_pos hmark, hresult]
      dsimp only
      rw [htake]
      obtain ⟨d, ds, rfl⟩ := List.exists_cons_of_ne_nil hds.1
      rfl

theorem IsExponent.head?_append {exponent : Option (Bool × List Char)} {e rest : List Char}
    (he : IsExponent exponent e) (hrest : EndsNumber rest) :
    ∀ c ∈ (e ++ rest).head?, c.isDigit = false ∧ c ≠ '.' := by
  cases he with
  | none => exact fun c hc => ⟨(hrest c hc).1, (hrest c hc).2.1⟩
  | mark hmark _ _ =>
      rintro c ⟨⟩
      rcases hmark with rfl | rfl <;> decide

theorem IsFraction.head?_append {ds f s : List Char} (hf : IsFraction ds f)
    (hs : ∀ c ∈ s.head?, c.isDigit = false) : ∀ c ∈ (f ++ s).head?, c.isDigit = false := by
  cases hf with
  | none => exact hs
  | point _ =>
      rintro c ⟨⟩
      rfl

/-- **A numeral is read back**, in front of a text that no number goes on with. -/
theorem readNumeral_append {n : Numeral} {text rest : List Char} (htext : n.IsUnsigned text)
    (hlead : NoLeadingZero n.whole) (hrest : EndsNumber rest) :
    ∃ h, readNumeral n.negative (text ++ rest) = .ok (n, ⟨rest, h⟩) := by
  obtain ⟨hwhole, f, e, hf, he, rfl⟩ := htext
  have hbehind := he.head?_append hrest
  obtain ⟨hexponent, hreadExponent⟩ := readExponent_append he hrest
  obtain ⟨hfraction, hreadFraction⟩ := readFraction_append hf hbehind
  obtain ⟨hdigits, hreadWhole⟩ := readWhole_append hwhole hlead
    (hf.head?_append fun c hc => (hbehind c hc).1)
  have hassoc : n.whole ++ (f ++ e) ++ rest = n.whole ++ (f ++ (e ++ rest)) := by
    rw [List.append_assoc, List.append_assoc]
  rw [hassoc]
  exact ⟨Remainder.lt_of_le_lt hexponent (Remainder.lt_of_le_lt hfraction hdigits), by
    rw [readNumeral, hreadWhole]
    dsimp only
    rw [hreadFraction]
    dsimp only
    rw [hreadExponent]⟩

theorem readNumber_append {n : Numeral} {text rest : List Char} (htext : n.IsUnsigned text)
    (hlead : NoLeadingZero n.whole) (hrest : EndsNumber rest) :
    ∃ h, readNumber n.negative (text ++ rest)
      = (n.toNumber rest).map fun x => (x, ⟨rest, h⟩) := by
  obtain ⟨h, hread⟩ := readNumeral_append htext hlead hrest
  exact ⟨h, by rw [readNumber, hread]⟩

/-- A text of a value is read without the brackets of arrays and objects. -/
theorem readValue_of_isOpening {c : Char} (hc : isOpening c = true) (hlist : c ≠ '[')
    (hobject : c ≠ '\x7b') (depth : Nat) (r : List Char) :
    readValue depth (c :: r) = (readScalar c r).map fun (v, ⟨t, ht⟩) =>
      (v, ⟨t, Remainder.lt_of_le_lt ht (Nat.lt_succ_self _)⟩) := by
  have hskip : skipSpace (c :: r) = .all (c :: r) := by
    rw [skipSpace, if_neg (ne_true_of_eq_false (not_isSpace_of_isOpening hc))]
  rw [readValue, hskip]
  dsimp only
  rw [if_neg hlist, if_neg hobject]

theorem Numeral.IsUnsigned.exists_isDigit {n : Numeral} {text : List Char}
    (h : n.IsUnsigned text) : ∃ d r, d.isDigit = true ∧ text = d :: r := by
  obtain ⟨hwhole, f, e, _, _, rfl⟩ := h
  obtain ⟨d, ds, hds⟩ := List.exists_cons_of_ne_nil hwhole.1
  exact ⟨d, ds ++ (f ++ e), hwhole.2 d (hds ▸ List.mem_cons_self), by rw [hds]; rfl⟩

/-- **A literal is read as the number of its numeral.** -/
theorem readValue_literal {n : Numeral} {text rest : List Char} (htext : n.IsLiteral text)
    (hlead : NoLeadingZero n.whole) (hrest : EndsNumber rest) (depth : Nat) :
    ∃ h, readValue depth (text ++ rest)
      = (n.toNumber rest).map fun x => (.number x, ⟨rest, h⟩) := by
  obtain ⟨digits, hdigits, rfl⟩ := htext
  obtain ⟨h, hread⟩ := readNumber_append hdigits hlead hrest
  cases hsign : n.negative with
  | true =>
      rw [hsign] at hread
      refine ⟨Nat.lt_succ_of_lt h, ?_⟩
      show readValue depth ('-' :: (digits ++ rest)) = _
      rw [readValue_of_isOpening rfl (by decide) (by decide)]
      show ((readNumber true (digits ++ rest)).map _).map _ = _
      rw [hread]
      cases n.toNumber rest <;> rfl
  | false =>
      rw [hsign] at hread
      obtain ⟨d, r, hd, rfl⟩ := hdigits.exists_isDigit
      obtain ⟨hlist, hobject⟩ : d ≠ '[' ∧ d ≠ '\x7b' := by
        constructor <;> rintro rfl <;> cases hd
      refine ⟨h, ?_⟩
      show readValue depth (d :: (r ++ rest)) = _
      rw [readValue_of_isOpening (by simp [isOpening, hd]) hlist hobject, readScalar_of_isDigit hd]
      show ((readNumber false (d :: r ++ rest)).map _).map _ = _
      rw [hread]
      cases n.toNumber rest <;> rfl

/-! ## Places of numbers -/

/-- A place in a document where a number can stand. -/
structure Place where
  /-- The nesting that is still allowed. -/
  depth : Nat
  /-- The white space in front of the number. -/
  space : List Char
  /-- The text behind the number, which no number goes on with. -/
  rest : List Char
  isSpace_of_mem : ∀ c ∈ space, isSpace c = true
  endsNumber : EndsNumber rest

/-- The value that is read at a place if the text of a number stands there, and what is left. -/
def Place.read (p : Place) (text : List Char) : Except Fault (Value × List Char) :=
  (readValue p.depth (p.space ++ (text ++ p.rest))).map fun q => (q.1, q.2.1)

/-- **A literal is read as the number of its numeral at every place.** -/
theorem Place.read_literal (p : Place) {n : Numeral} {text : List Char} (htext : n.IsLiteral text)
    (hlead : NoLeadingZero n.whole) :
    p.read text = (n.toNumber p.rest).map fun x => (.number x, p.rest) := by
  obtain ⟨_, hread⟩ := readValue_literal htext hlead p.endsNumber p.depth
  rw [Place.read, readValue_append_of_isSpace p.isSpace_of_mem, hread]
  cases n.toNumber p.rest <;> rfl

/-- The place of a number that is a whole document. -/
def Place.document : Place := ⟨depthLimit, [], [], List.forall_mem_nil _, endsNumber_nil⟩

theorem read_eq_finish (text : List Char) :
    read (String.ofList text) = finish text (Place.document.read text) := by
  have hnone : Place.document.space ++ (text ++ Place.document.rest) = text := List.append_nil text
  rw [read_of_toList String.toList_ofList, Place.read, hnone]
  rfl

/-! ## Numbers that are read back -/

/-- What a reader gives, and the text behind it. -/
def parsed {α : Type} {s : List Char} (result : Except Fault (α × Shorter s)) :
    Option (α × List Char) :=
  result.toOption.map fun p => (p.1, p.2.1)

/-- The number that is read for the text of a number. -/
def reread? (x : Binary64) : Option Binary64 :=
  match (read (String.ofList (floatText x))).toOption with
  | some (.number (.float y)) => some y
  | _ => none

/-- A text is a document if a value is read from it and nothing is left. -/
theorem toOption_read {s : List Char} {v? : Option Value}
    (h : parsed (readValue depthLimit s) = v?.map (·, [])) :
    (read (String.ofList s)).toOption = v? := by
  rw [read_of_toList String.toList_ofList]
  rcases hread : readValue depthLimit s with f | ⟨v, ⟨t, ht⟩⟩
  · rw [hread] at h
    cases v? with
    | none => rfl
    | some w => cases h
  · rw [hread] at h
    cases v? with
    | none => cases h
    | some w =>
        cases h
        rfl

/-- The number of a numeral does not depend on the text behind it. -/
theorem Numeral.toOption_float? (n : Numeral) (rest rest' : List Char) :
    (n.float? rest).toOption = (n.float? rest').toOption := by
  rcases n.float?_total with ⟨x, hx⟩ | hnone
  · rw [hx, hx]
  · obtain ⟨_, hf, -⟩ := hnone rest
    obtain ⟨_, hf', -⟩ := hnone rest'
    rw [hf, hf']
    rfl

section Writes

variable {n : Numeral} {text : List Char} {x : Binary64}

theorem Numeral.Writes.toNumber_eq (h : n.Writes text x) (rest : List Char) :
    n.toNumber rest = (n.float? rest).map .float := by
  have hplain : ¬ (n.fraction.isEmpty && n.exponent.isNone) = true := by
    have := h.marked
    simpa [imp_iff_not_or] using this
  have hinteger : n.integer? = none := by
    rw [integer?, if_neg hplain]
  rw [toNumber, hinteger]

theorem reread?_eq_toOption (h : n.Writes (floatText x) x) (rest : List Char) :
    (n.float? rest).toOption = reread? x := by
  obtain ⟨_, hread⟩ := readValue_literal h.literal h.lead endsNumber_nil depthLimit
  have hparsed : parsed (readValue depthLimit (floatText x ++ []))
      = ((n.float? []).toOption.map fun y => Value.number (.float y)).map (·, []) := by
    rw [hread, h.toNumber_eq]
    cases n.float? [] <;> rfl
  rw [List.append_nil] at hparsed
  rw [n.toOption_float? rest [], reread?, toOption_read hparsed]
  cases n.float? [] <;> rfl

/-- Each further digit of a number counts for a factor of ten. -/
theorem mul_pow_le_extend (s : Nat) (ds : List Char) : s * 10 ^ ds.length ≤ extend s ds := by
  induction ds generalizing s with
  | nil => exact (Nat.mul_one s).le
  | cons d ds ih =>
      calc s * 10 ^ (ds.length + 1) = s * 10 * 10 ^ ds.length := by
            rw [Nat.pow_succ, Nat.mul_assoc, Nat.mul_comm 10]
        _ ≤ (s * 10 + Decimal.digitValue d) * 10 ^ ds.length :=
            Nat.mul_le_mul_right _ (Nat.le_add_right _ _)
        _ ≤ extend s (d :: ds) := ih _

theorem digitValue_pos {c : Char} (hc : c.isDigit = true) (hzero : c ≠ '0') :
    0 < Decimal.digitValue c := by
  simp only [Char.isDigit, Bool.and_eq_true, decide_eq_true_eq] at hc
  have hlow : 48 ≤ c.toNat := hc.1
  have hne : c.toNat ≠ 48 := fun h => hzero (Char.toNat_inj.mp h)
  show 0 < c.toNat - 48
  omega

/-- The exponent of a short numeral that is written is small. -/
theorem Numeral.Writes.natAbs_writtenExponent_le (h : n.Writes text x)
    (hshort : n.toDecimal.IsShort) : n.writtenExponent.natAbs ≤ exponentLimit := by
  rcases h.significant with hnone | hhead
  · rw [writtenExponent, hnone]
    exact Nat.zero_le _
  · -- the digits behind the point make the numeral too long if there are sixteen of them
    obtain ⟨_, ⟨hwhole, _⟩, _⟩ := h.literal
    have hpos : 0 < extend 0 n.whole := by
      obtain ⟨d, ds, hds⟩ := List.exists_cons_of_ne_nil hwhole.1
      rw [hds] at hwhole hhead ⊢
      have hd := digitValue_pos (hwhole.2 d List.mem_cons_self) (by simpa using hhead)
      exact hd.trans_le ((Nat.le_add_left _ _).trans (le_extend _ ds))
    have hlength : 10 ^ n.fraction.length < 10 ^ 16 :=
      calc 10 ^ n.fraction.length ≤ extend 0 n.whole * 10 ^ n.fraction.length :=
            Nat.le_mul_of_pos_left _ hpos
        _ ≤ extend (extend 0 n.whole) n.fraction := mul_pow_le_extend _ _
        _ = n.toDecimal.digits := (extend_append 0 n.whole n.fraction).symm
        _ < 2 ^ 53 := hshort.1
        _ ≤ 10 ^ 16 := by decide
    have hfew : n.fraction.length < 16 := (Nat.pow_lt_pow_iff_right (by decide)).mp hlength
    have hexponent : n.toDecimal.exponent = n.writtenExponent - (n.fraction.length : Int) := rfl
    obtain ⟨_, hlow, hhigh⟩ := hshort
    simp only [exponentLimit]
    omega

/-- **A number that is written with few digits is read back.** -/
theorem reread?_of_isShort (hx : x.rank ≤ Binary64.infinityRank) {d : Decimal}
    (hd : Decimal.ofText? (floatText x) = some d) (hshort : d.IsShort) : reread? x = some x := by
  obtain ⟨n, hn⟩ := exists_writes_floatText hx
  rw [hn.literal.ofText?, Option.some.injEq] at hd
  subst hd
  have hfloat := Numeral.float?_of_isShort hn.literal.isDecimal hshort
    (hn.natAbs_writtenExponent_le hshort) []
  rw [← reread?_eq_toOption hn [], hfloat, hn.nearest]
  rfl

end Writes

/-- The text of a number is read as the number that is reread. -/
theorem parsed_readValue_floatText {x : Binary64} (hx : x.rank ≤ Binary64.infinityRank)
    {rest : List Char} (hrest : EndsNumber rest) (depth : Nat) :
    parsed (readValue depth (floatText x ++ rest))
      = (reread? x).map fun y => (.number (.float y), rest) := by
  obtain ⟨n, hn⟩ := exists_writes_floatText hx
  obtain ⟨h, hread⟩ := readValue_literal hn.literal hn.lead hrest depth
  rw [hread, hn.toNumber_eq, ← reread?_eq_toOption hn rest]
  cases n.float? rest <;> rfl

/-- The text of an integer is read back. -/
theorem parsed_readValue_intText {i : Int} (hlow : -0x8000000000000000 ≤ i)
    (hhigh : i < 0x10000000000000000) {rest : List Char} (hrest : EndsNumber rest) (depth : Nat) :
    parsed (readValue depth (intText i ++ rest)) = some (.number (.integer i), rest) := by
  obtain ⟨n, hn, hlead, hinteger⟩ := exists_literal_intText hlow hhigh
  obtain ⟨h, hread⟩ := readValue_literal hn hlead hrest depth
  rw [hread, Numeral.toNumber, hinteger]
  rfl

end Specimen.Json
