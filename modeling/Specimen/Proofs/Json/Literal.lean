import Specimen.Proofs.Json.Numeral
import Specimen.Proofs.Json.Reading
import Specimen.Text.Blank

set_option autoImplicit false

/-! # Number literals

A JSON document that is a number is the text of a numeral between white space
(`exists_numeral_of_read`). Without the white space, which trimming removes, this text also
denotes a number as character data, namely the decimal number that the numeral writes
(`Numeral.IsLiteral.ofText?`). The texts are described part by part, and for each part there is
one lemma for its reader and one for the reading of character data.
-/

namespace Specimen.Json

open Specimen.Number Specimen.Text

/-! ## The texts of numerals -/

/-- A run of digits, at least one. -/
def IsDigits (ds : List Char) : Prop := ds ≠ [] ∧ ∀ c ∈ ds, c.isDigit = true

/-- The text of a fraction with given digits: a point and the digits, or nothing. -/
inductive IsFraction : List Char → List Char → Prop
  | none : IsFraction [] []
  | point {ds : List Char} (h : IsDigits ds) : IsFraction ds ('.' :: ds)

/-- The text of an exponent with given sign and digits: a mark, the sign and the digits, or
nothing. -/
inductive IsExponent : Option (Bool × List Char) → List Char → Prop
  | none : IsExponent none []
  | mark {mark : Char} {negative : Bool} {t ds : List Char} (hmark : mark = 'e' ∨ mark = 'E')
      (hsign : Decimal.takeSign t = (negative, ds)) (h : IsDigits ds) :
      IsExponent (some (negative, ds)) (mark :: t)

/-- The text of a numeral behind its sign. -/
def Numeral.IsUnsigned (n : Numeral) (text : List Char) : Prop :=
  IsDigits n.whole ∧ ∃ f e, IsFraction n.fraction f ∧ IsExponent n.exponent e ∧
    text = n.whole ++ (f ++ e)

/-- The text of a numeral with its sign. -/
def Numeral.IsLiteral (n : Numeral) (text : List Char) : Prop :=
  ∃ digits, n.IsUnsigned digits ∧ text = if n.negative then '-' :: digits else digits

/-! ## Reading numerals -/

theorem takeDigits_eq (s : List Char) :
    s = (takeDigits s).1 ++ (takeDigits s).2.1 ∧ ∀ c ∈ (takeDigits s).1, c.isDigit = true := by
  induction s with
  | nil => exact ⟨rfl, by simp [takeDigits]⟩
  | cons c r ih =>
      unfold takeDigits
      split_ifs with hc
      · exact ⟨congrArg (c :: ·) ih.1, List.forall_mem_cons.mpr ⟨hc, ih.2⟩⟩
      · exact ⟨rfl, by simp⟩

theorem isDigits_of_readWhole {s whole : List Char} {r : Shorter s}
    (h : readWhole s = .ok (whole, r)) : IsDigits whole ∧ s = whole ++ r.1 := by
  unfold readWhole at h
  split at h
  · cases h
  · next c t =>
      split_ifs at h with hzero hdigit
      · have hdigits : IsDigits ['0'] := ⟨List.cons_ne_nil _ _, List.forall_mem_singleton.mpr rfl⟩
        split at h
        · split_ifs at h
          cases h
          exact ⟨hdigits, by rw [hzero]; rfl⟩
        · cases h
          exact ⟨hdigits, by rw [hzero]; rfl⟩
      · cases h
        have htail := takeDigits_eq t
        exact ⟨⟨by simp, List.forall_mem_cons.mpr ⟨hdigit, htail.2⟩⟩, congrArg (c :: ·) htail.1⟩

theorem isFraction_of_readFraction {s fraction : List Char} {r : NotLonger s}
    (h : readFraction s = .ok (fraction, r)) : ∃ f, IsFraction fraction f ∧ s = f ++ r.1 := by
  unfold readFraction at h
  split at h
  · next t =>
      have hdigits := takeDigits_eq t
      split at h
      · cases h
      · next ds u hu hne heq =>
          cases h
          rw [heq] at hdigits
          exact ⟨_, .point ⟨hne, hdigits.2⟩, congrArg ('.' :: ·) hdigits.1⟩
  · cases h
    exact ⟨[], .none, rfl⟩

theorem takeSign_eq_readSign (s : List Char) :
    Decimal.takeSign s = ((readSign s).1, (readSign s).2.1) := by
  unfold readSign
  split
  · rfl
  · rfl
  · next hminus hplus =>
      fun_cases Decimal.takeSign s with
      | case1 r => exact (hminus r rfl).elim
      | case2 r => exact (hplus r rfl).elim
      | case3 => rfl

/-- Digits have no sign in front. -/
theorem takeSign_of_isDigit {c : Char} (hc : c.isDigit = true) (cs : List Char) :
    Decimal.takeSign (c :: cs) = (false, c :: cs) := by
  unfold Decimal.takeSign
  split
  · next heq =>
      cases heq
      cases hc
  · next heq =>
      cases heq
      cases hc
  · rfl

/-- The text of a sign and digits can be told from what follows them. -/
theorem exists_of_takeSign_append {s ds rest : List Char} {negative : Bool} (hds : IsDigits ds)
    (h : Decimal.takeSign s = (negative, ds ++ rest)) :
    ∃ t, Decimal.takeSign t = (negative, ds) ∧ s = t ++ rest := by
  unfold Decimal.takeSign at h
  split at h
  · cases h
    exact ⟨'-' :: ds, rfl, rfl⟩
  · cases h
    exact ⟨'+' :: ds, rfl, rfl⟩
  · -- without a sign the first digit comes first, and it is none of the two signs
    cases h
    obtain ⟨d, ds, rfl⟩ := List.exists_cons_of_ne_nil hds.1
    exact ⟨d :: ds, takeSign_of_isDigit (hds.2 d List.mem_cons_self) ds, rfl⟩

theorem isExponent_of_readExponent {s : List Char} {exponent : Option (Bool × List Char)}
    {r : NotLonger s} (h : readExponent s = .ok (exponent, r)) :
    ∃ e, IsExponent exponent e ∧ s = e ++ r.1 := by
  unfold readExponent at h
  split at h
  · cases h
    exact ⟨[], .none, rfl⟩
  · next mark t =>
      split_ifs at h with hmark
      · have hsign := takeSign_eq_readSign t
        dsimp only at h
        have hdigits := takeDigits_eq (readSign t).2.1
        split at h
        · cases h
        · next ds u hu hne heq =>
            cases h
            rw [heq] at hdigits
            have hds : IsDigits ds := ⟨hne, hdigits.2⟩
            rw [hdigits.1] at hsign
            obtain ⟨e, he, ht⟩ := exists_of_takeSign_append hds hsign
            exact ⟨mark :: e, .mark hmark he hds, congrArg (mark :: ·) ht⟩
      · cases h
        exact ⟨[], .none, rfl⟩

theorem isUnsigned_of_readNumeral {negative : Bool} {s : List Char} {n : Numeral}
    {r : Shorter s} (h : readNumeral negative s = .ok (n, r)) :
    n.negative = negative ∧ ∃ text, n.IsUnsigned text ∧ s = text ++ r.1 := by
  unfold readNumeral at h
  split at h
  · cases h
  · next whole t ht hwhole =>
    split at h
    · cases h
    · next fraction u hu hfraction =>
      split at h
      · cases h
      · next exponent v hv hexponent =>
        cases h
        obtain ⟨hdigits, hs⟩ := isDigits_of_readWhole hwhole
        obtain ⟨f, hf, htail⟩ := isFraction_of_readFraction hfraction
        obtain ⟨e, he, hrest⟩ := isExponent_of_readExponent hexponent
        dsimp only at hs htail hrest
        refine ⟨rfl, whole ++ (f ++ e), ⟨hdigits, f, e, hf, he, rfl⟩, ?_⟩
        calc s = whole ++ t := hs
          _ = whole ++ (f ++ (e ++ v)) := by rw [htail, hrest]
          _ = whole ++ (f ++ e) ++ v := by rw [List.append_assoc, List.append_assoc]

/-! ## The decimal number of a literal -/

theorem IsDigits.takeWhile_append {ds rest : List Char} (h : IsDigits ds)
    (hrest : ∀ c ∈ rest.head?, c.isDigit = false) :
    (ds ++ rest).takeWhile Char.isDigit = ds ∧ (ds ++ rest).dropWhile Char.isDigit = rest := by
  rw [List.takeWhile_append_of_pos h.2, List.dropWhile_append_of_pos h.2]
  cases rest with
  | nil => exact ⟨List.append_nil ds, rfl⟩
  | cons c cs =>
      have hc : c.isDigit = false := hrest c rfl
      simp [hc]

theorem IsExponent.head?_not_isDigit {exponent : Option (Bool × List Char)} {e : List Char}
    (h : IsExponent exponent e) : ∀ c ∈ e.head?, c.isDigit = false := by
  cases h with
  | none => simp
  | mark hmark _ _ =>
      rintro c ⟨⟩
      rcases hmark with rfl | rfl <;> rfl

theorem IsFraction.head?_append_not_isDigit {exponent : Option (Bool × List Char)}
    {ds f e : List Char} (h : IsFraction ds f) (he : IsExponent exponent e) :
    ∀ c ∈ (f ++ e).head?, c.isDigit = false := by
  cases h with
  | none => exact he.head?_not_isDigit
  | point _ =>
      rintro c ⟨⟩
      rfl

theorem IsFraction.takeFraction_append {exponent : Option (Bool × List Char)}
    {ds f e : List Char} (h : IsFraction ds f) (he : IsExponent exponent e) :
    Decimal.takeFraction (f ++ e) = (ds, e) := by
  cases h with
  | none =>
      cases he with
      | none => rfl
      | mark hmark _ _ => rcases hmark with rfl | rfl <;> rfl
  | point hds =>
      obtain ⟨htake, hdrop⟩ := hds.takeWhile_append he.head?_not_isDigit
      exact Prod.ext htake hdrop

theorem IsExponent.exponentOfText? {n : Numeral} {e : List Char} (h : IsExponent n.exponent e) :
    Decimal.exponentOfText? e = some n.writtenExponent := by
  unfold Numeral.writtenExponent
  generalize n.exponent = exponent at h
  cases h with
  | none => rfl
  | mark hmark hsign hds =>
      simp only [Decimal.exponentOfText?, if_pos hmark, hsign, Option.getD_some]
      rw [if_neg]
      simpa [hds.1] using hds.2

/-- **A numeral's text denotes the decimal number that the numeral writes.** -/
theorem Numeral.IsLiteral.ofText? {n : Numeral} {text : List Char} (h : n.IsLiteral text) :
    Decimal.ofText? text = some n.toDecimal := by
  obtain ⟨digits, ⟨hwhole, f, e, hf, he, hdigits⟩, htext⟩ := h
  have hsign : Decimal.takeSign text = (n.negative, digits) := by
    rw [htext]
    cases n.negative with
    | true => rfl
    | false =>
        obtain ⟨d, ds, hds⟩ := List.exists_cons_of_ne_nil hwhole.1
        rw [hdigits, hds]
        exact takeSign_of_isDigit (hwhole.2 d (hds ▸ List.mem_cons_self)) _
  obtain ⟨htake, hdrop⟩ := hwhole.takeWhile_append (hf.head?_append_not_isDigit he)
  have hsome : (n.whole.isEmpty && n.fraction.isEmpty) = false := by
    simp [hwhole.1]
  simp only [Decimal.ofText?, hsign, hdigits, htake, hdrop, hf.takeFraction_append he, hsome,
    he.exponentOfText?]
  rfl

/-! ## White space around a literal -/

theorem isBlank_of_isSpace {c : Char} (h : isSpace c = true) : isBlank c = true := by
  simp only [isSpace, Bool.or_eq_true, beq_iff_eq] at h
  rcases h with ((rfl | rfl) | rfl) | rfl <;> rfl

theorem not_isBlank_of_isDigit {c : Char} (h : c.isDigit = true) : isBlank c = false := by
  simp only [Char.isDigit, Bool.and_eq_true, decide_eq_true_eq] at h
  have hlow : 48 ≤ c.toNat := h.1
  have hhigh : c.toNat ≤ 57 := h.2
  simp only [isBlank]
  grind

theorem dropWhile_isBlank_append {front s : List Char} (hfront : ∀ c ∈ front, isBlank c = true)
    (hs : ∀ c ∈ s.head?, isBlank c = false) : (front ++ s).dropWhile isBlank = s := by
  rw [List.dropWhile_append_of_pos hfront]
  cases s with
  | nil => rfl
  | cons c cs => rw [List.dropWhile_cons_of_neg (by simp [hs c rfl])]

/-- What stands between white space is what trimming leaves, if it has no white space itself. -/
theorem trim_of_blank {front s back : List Char} (hfront : ∀ c ∈ front, isBlank c = true)
    (hback : ∀ c ∈ back, isBlank c = true) (hs : s ≠ []) (hblank : ∀ c ∈ s, isBlank c = false) :
    trim (front ++ (s ++ back)) = s := by
  have hstart : trimStart (front ++ (s ++ back)) = s ++ back := by
    refine dropWhile_isBlank_append hfront fun c hc => hblank c ?_
    rw [List.head?_append, Option.or_of_isSome (List.isSome_head?.mpr hs)] at hc
    exact List.mem_of_mem_head? hc
  rw [trim, hstart, trimEnd, List.reverse_append, dropWhile_isBlank_append, List.reverse_reverse]
  · simpa using hback
  · intro c hc
    exact hblank c (List.mem_reverse.mp (List.mem_of_mem_head? hc))

theorem IsFraction.not_isBlank {ds f : List Char} (h : IsFraction ds f) :
    ∀ c ∈ f, isBlank c = false := by
  cases h with
  | none => simp
  | point hds =>
      exact List.forall_mem_cons.mpr ⟨rfl, fun c hc => not_isBlank_of_isDigit (hds.2 c hc)⟩

theorem not_isBlank_of_takeSign {t ds : List Char} {negative : Bool} (hds : IsDigits ds)
    (h : Decimal.takeSign t = (negative, ds)) : ∀ c ∈ t, isBlank c = false := by
  have hdigits : ∀ c ∈ ds, isBlank c = false := fun c hc => not_isBlank_of_isDigit (hds.2 c hc)
  unfold Decimal.takeSign at h
  split at h <;> cases h
  · exact List.forall_mem_cons.mpr ⟨rfl, hdigits⟩
  · exact List.forall_mem_cons.mpr ⟨rfl, hdigits⟩
  · exact hdigits

theorem IsExponent.not_isBlank {exponent : Option (Bool × List Char)} {e : List Char}
    (h : IsExponent exponent e) : ∀ c ∈ e, isBlank c = false := by
  cases h with
  | none => simp
  | mark hmark hsign hds =>
      refine List.forall_mem_cons.mpr ⟨?_, not_isBlank_of_takeSign hds hsign⟩
      rcases hmark with rfl | rfl <;> rfl

theorem Numeral.IsLiteral.ne_nil {n : Numeral} {text : List Char} (h : n.IsLiteral text) :
    text ≠ [] := by
  obtain ⟨digits, ⟨hwhole, f, e, _, _, rfl⟩, rfl⟩ := h
  split_ifs
  · exact List.cons_ne_nil _ _
  · simp [hwhole.1]

theorem Numeral.IsLiteral.not_isBlank {n : Numeral} {text : List Char} (h : n.IsLiteral text) :
    ∀ c ∈ text, isBlank c = false := by
  obtain ⟨digits, ⟨hwhole, f, e, hf, he, hdigits⟩, htext⟩ := h
  have hblank : ∀ c ∈ digits, isBlank c = false := by
    rw [hdigits, List.forall_mem_append, List.forall_mem_append]
    exact ⟨fun c hc => not_isBlank_of_isDigit (hwhole.2 c hc), hf.not_isBlank, he.not_isBlank⟩
  rw [htext]
  split_ifs
  · exact List.forall_mem_cons.mpr ⟨rfl, hblank⟩
  · exact hblank

/-! ## Documents -/

theorem isUnsigned_of_readNumber {negative : Bool} {s : List Char} {x : Number} {r : Shorter s}
    (h : readNumber negative s = .ok (x, r)) :
    ∃ (n : Numeral) (text : List Char), n.negative = negative ∧ n.IsUnsigned text ∧
      s = text ++ r.1 ∧ n.toNumber r.1 = .ok x := by
  unfold readNumber at h
  split at h
  · cases h
  · next n t ht hn =>
      obtain ⟨y, hy, heq⟩ := exists_of_map_eq_ok h
      cases heq
      obtain ⟨hnegative, text, htext, hs⟩ := isUnsigned_of_readNumeral hn
      exact ⟨n, text, hnegative, htext, hs, hy⟩

theorem eq_of_readConstant {letters s : List Char} {v w : Value} {t : NotLonger s}
    (h : readConstant letters v s = .ok (w, t)) : w = v := by
  obtain ⟨_, _, heq⟩ := exists_of_map_eq_ok h
  exact (congrArg Prod.fst heq).symm

theorem isLiteral_of_readScalar {c : Char} {r : List Char} {x : Number} {t : NotLonger r}
    (h : readScalar c r = .ok (.number x, t)) :
    ∃ (n : Numeral) (text : List Char), n.IsLiteral text ∧ c :: r = text ++ t.1 ∧
      n.toNumber t.1 = .ok x := by
  unfold readScalar at h
  split at h
  · cases eq_of_readConstant h
  · cases eq_of_readConstant h
  · cases eq_of_readConstant h
  · obtain ⟨_, _, heq⟩ := exists_of_map_eq_ok h
    cases heq
  · obtain ⟨⟨y, u, hu⟩, hy, heq⟩ := exists_of_map_eq_ok h
    cases heq
    obtain ⟨n, text, hnegative, htext, hr, hx⟩ := isUnsigned_of_readNumber hy
    exact ⟨n, '-' :: text, ⟨text, htext, by rw [hnegative]; rfl⟩, congrArg ('-' :: ·) hr, hx⟩
  · split_ifs at h
    obtain ⟨⟨y, u, hu⟩, hy, heq⟩ := exists_of_map_eq_ok h
    cases heq
    obtain ⟨n, text, hnegative, htext, hr, hx⟩ := isUnsigned_of_readNumber hy
    exact ⟨n, text, ⟨text, htext, by rw [hnegative]; rfl⟩, hr, hx⟩

theorem isLiteral_of_readValue {depth : Nat} {s : List Char} {x : Number} {t : Shorter s}
    (h : readValue depth s = .ok (.number x, t)) :
    ∃ (n : Numeral) (space text : List Char), n.IsLiteral text ∧ (∀ c ∈ space, isSpace c = true) ∧
      s = space ++ (text ++ t.1) ∧ n.toNumber t.1 = .ok x := by
  obtain ⟨space, hs, hspace⟩ := skipSpace_eq s
  rw [readValue] at h
  split at h
  · cases h
  · next c r hr heq =>
      -- what starts with a bracket or a brace is no number
      split_ifs at h with hbracket hdepth hbrace hdepth
      · split at h
        · cases h
        · cases h
        · obtain ⟨_, _, heq⟩ := exists_of_map_eq_ok h
          cases heq
      · split at h
        · cases h
        · cases h
        · obtain ⟨_, _, heq⟩ := exists_of_map_eq_ok h
          cases heq
      · obtain ⟨⟨v, u, hu⟩, hv, heq'⟩ := exists_of_map_eq_ok h
        cases heq'
        obtain ⟨n, text, htext, hcr, hx⟩ := isLiteral_of_readScalar hv
        rw [heq] at hs
        exact ⟨n, space, text, htext, hspace, by rw [← hcr]; exact hs, hx⟩

theorem Numeral.IsLiteral.isDecimal {n : Numeral} {text : List Char} (h : n.IsLiteral text) :
    n.IsDecimal := by
  obtain ⟨_, ⟨hwhole, f, e, hf, _, _⟩, _⟩ := h
  refine ⟨hwhole.2, ?_⟩
  generalize n.fraction = fraction at hf
  cases hf with
  | none => simp
  | point hds => exact hds.2

/-- **A document that is a number is the text of a numeral**, whose decimal number is what the
document denotes as character data. -/
theorem exists_numeral_of_read {text : String} {x : Number} (h : read text = .ok (.number x)) :
    ∃ (n : Numeral) (rest : List Char), n.IsDecimal ∧ n.toNumber rest = .ok x ∧
      Decimal.ofText? (trim text.toList) = some n.toDecimal := by
  obtain ⟨rest, hread, hrest⟩ := exists_of_finish_eq_ok h
  obtain ⟨⟨v, t, ht⟩, hvalue, heq⟩ := exists_of_map_eq_ok hread
  cases heq
  obtain ⟨n, space, literal, hliteral, hspace, htext, hx⟩ := isLiteral_of_readValue hvalue
  refine ⟨n, t, hliteral.isDecimal, hx, ?_⟩
  rw [htext, trim_of_blank (fun c hc => isBlank_of_isSpace (hspace c hc))
    (fun c hc => isBlank_of_isSpace (hrest c hc)) hliteral.ne_nil hliteral.not_isBlank]
  exact hliteral.ofText?

theorem readScalar_of_isDigit {c : Char} (hc : c.isDigit = true) (r : List Char) :
    readScalar c r = (readNumber false (c :: r)).map fun (n, ⟨t, h⟩) =>
      (.number n, ⟨t, Remainder.le_of_lt_cons h⟩) := by
  unfold readScalar
  split
  · cases hc
  · cases hc
  · cases hc
  · cases hc
  · cases hc
  · exact if_pos hc

/-- A text that is a numeral without a sign is read as the numeral's number. -/
theorem read_of_readNumeral {text : String} {c : Char} {r : List Char} {n : Numeral} {x : Number}
    (htext : text.toList = c :: r) (hc : c.isDigit = true)
    (hn : (readNumeral false (c :: r)).map (fun p => (p.1, p.2.1)) = .ok (n, []))
    (hx : n.toNumber [] = .ok x) : read text = .ok (.number x) := by
  have hspace : isSpace c = false := by
    refine Bool.eq_false_iff.mpr fun hspace => ?_
    have hblank := isBlank_of_isSpace hspace
    rw [not_isBlank_of_isDigit hc] at hblank
    cases hblank
  have hbracket : c ≠ '[' := by
    rintro rfl
    cases hc
  have hbrace : c ≠ '\x7b' := by
    rintro rfl
    cases hc
  have hskip : skipSpace (c :: r) = .all (c :: r) := by
    rw [skipSpace, if_neg (ne_true_of_eq_false hspace)]
  have hnumber : readNumber false (c :: r) = .ok (x, ⟨[], Nat.zero_lt_succ _⟩) := by
    obtain ⟨⟨n', t, ht⟩, hn', heq⟩ := exists_of_map_eq_ok hn
    cases heq
    rw [readNumber, hn']
    dsimp only
    rw [hx]
    rfl
  rw [read_of_toList htext, readValue, hskip]
  dsimp only
  rw [if_neg hbracket, if_neg hbrace, readScalar_of_isDigit hc, hnumber]
  rfl

end Specimen.Json
