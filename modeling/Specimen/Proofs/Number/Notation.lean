import Mathlib.Algebra.Order.Field.Basic
import Mathlib.Algebra.Order.Ring.Rat
import Mathlib.Data.List.TakeWhile
import Specimen.Proofs.Json.Literal
import Specimen.Proofs.Number.Shortest

set_option autoImplicit false

/-! # Written numerals

The texts of decimal numerals, described part by part, with the numeral that each denotes
(`Decimal.IsWritten`): a sign or none, digits with at most one point, and an exponent or none. The
grammar is wider than that of number literals: a plus sign may stand in front, digits may be missing
on one side of the point, and zeros may lead. `ofText?_eq_some_iff` says that exactly these texts are
read, each as what it denotes. There is one lemma for each part and each direction; what makes the
parts come apart is that none of them begins with a character that the part in front could go on
with.

A numeral has an exact rational value (`Decimal.value`). If this is an integer other than zero, the
number nearest to the numeral is the one nearest to the integer (`nearest_of_value_eq`).
-/

namespace Specimen.Number

open Specimen.Json (IsDigits takeSign_of_isDigit)

namespace Decimal

/-! ## The texts of numerals -/

/-- The text of a sign, which may be left out. -/
inductive IsSignText : Bool → List Char → Prop
  | none : IsSignText false []
  | plus : IsSignText false ['+']
  | minus : IsSignText true ['-']

/-- The text of given digits in front of the point and behind it: without a point, with one at either
end, or with one between digits. -/
inductive IsPointedText : List Char → List Char → List Char → Prop
  | whole {ds : List Char} (hds : IsDigits ds) : IsPointedText ds [] ds
  | pointBehind {ds : List Char} (hds : IsDigits ds) : IsPointedText ds [] (ds ++ ['.'])
  | pointBetween {ds fs : List Char} (hds : IsDigits ds) (hfs : IsDigits fs) :
      IsPointedText ds fs (ds ++ '.' :: fs)
  | pointInFront {fs : List Char} (hfs : IsDigits fs) : IsPointedText [] fs ('.' :: fs)

/-- The text of an exponent, which may be left out: a mark, a sign and digits. -/
inductive IsExponentText : Int → List Char → Prop
  | none : IsExponentText 0 []
  | mark {mark : Char} {negative : Bool} {s ds : List Char} (hmark : mark = 'e' ∨ mark = 'E')
      (hs : IsSignText negative s) (hds : IsDigits ds) :
      IsExponentText (signed negative (natOfDigits ds)) (mark :: (s ++ ds))

/-- `d.IsWritten text`: the text is that of a numeral, and it denotes `d`. -/
inductive IsWritten : Decimal → List Char → Prop
  | parts {negative : Bool} {whole fraction s m e : List Char} {exponent : Int}
      (hs : IsSignText negative s) (hm : IsPointedText whole fraction m)
      (he : IsExponentText exponent e) :
      IsWritten ⟨negative, natOfDigits (whole ++ fraction), exponent - fraction.length⟩
        (s ++ (m ++ e))

/-! ## Signs -/

theorem isSignText_of_takeSign {s r : List Char} {negative : Bool}
    (h : takeSign s = (negative, r)) : ∃ t, IsSignText negative t ∧ s = t ++ r := by
  unfold takeSign at h
  split at h <;> cases h
  · exact ⟨_, .minus, rfl⟩
  · exact ⟨_, .plus, rfl⟩
  · exact ⟨_, .none, rfl⟩

/-- A sign in front of a text that does not begin with one. -/
theorem IsSignText.takeSign_append {negative : Bool} {s : List Char} (h : IsSignText negative s)
    {rest : List Char} (hrest : takeSign rest = (false, rest)) :
    takeSign (s ++ rest) = (negative, rest) := by
  cases h with
  | none => exact hrest
  | plus => rfl
  | minus => rfl

theorem takeSign_of_isDigits {ds : List Char} (hds : IsDigits ds) (rest : List Char) :
    takeSign (ds ++ rest) = (false, ds ++ rest) := by
  obtain ⟨d, ds, rfl⟩ := List.exists_cons_of_ne_nil hds.1
  exact takeSign_of_isDigit (hds.2 d List.mem_cons_self) (ds ++ rest)

theorem IsPointedText.takeSign_append {whole fraction m : List Char}
    (h : IsPointedText whole fraction m) (rest : List Char) :
    takeSign (m ++ rest) = (false, m ++ rest) := by
  cases h with
  | whole hds => exact takeSign_of_isDigits hds rest
  | pointBehind hds =>
      rw [List.append_assoc]
      exact takeSign_of_isDigits hds _
  | pointBetween hds hfs =>
      rw [List.append_assoc]
      exact takeSign_of_isDigits hds _
  | pointInFront hfs => rfl

/-! ## Exponents -/

theorem isDigits_takeWhile {s : List Char} (h : s.takeWhile Char.isDigit ≠ []) :
    IsDigits (s.takeWhile Char.isDigit) :=
  ⟨h, fun _ hc => List.mem_takeWhile_imp hc⟩

theorem exponentOfText?_eq_some_iff {e : List Char} {k : Int} :
    exponentOfText? e = some k ↔ IsExponentText k e := by
  constructor
  · intro h
    cases e with
    | nil =>
        cases h
        exact .none
    | cons mark r =>
        rcases hsign : takeSign r with ⟨negative, ds⟩
        obtain ⟨t, ht, rfl⟩ := isSignText_of_takeSign hsign
        simp only [exponentOfText?, hsign] at h
        split_ifs at h with hmark hdigits
        cases h
        exact .mark hmark ht (by simpa [IsDigits] using hdigits)
  · intro h
    cases h with
    | none => rfl
    | @mark mark negative s ds hmark hs hds =>
        have hsign : takeSign (s ++ ds) = (negative, ds) := by
          have hds' := takeSign_of_isDigits hds []
          rw [List.append_nil] at hds'
          exact hs.takeSign_append hds'
        simp only [exponentOfText?, if_pos hmark, hsign]
        rw [if_neg]
        simpa [hds.1] using hds.2

/-- An exponent does not begin with a digit or a point. -/
theorem IsExponentText.head? {k : Int} {e : List Char} (h : IsExponentText k e) :
    ∀ c ∈ e.head?, c.isDigit = false ∧ c ≠ '.' := by
  cases h with
  | none => simp
  | mark hmark _ _ =>
      rintro c ⟨⟩
      rcases hmark with rfl | rfl <;> decide

/-! ## Digits and points -/

theorem takeFraction_of_head? {s : List Char} (h : ∀ c ∈ s.head?, c ≠ '.') :
    takeFraction s = ([], s) := by
  unfold takeFraction
  split
  · exact absurd rfl (h '.' rfl)
  · rfl

/-- The digits around the point are taken from the front of a text. -/
theorem isPointedText_of_take {s fraction rest : List Char}
    (h : takeFraction (s.dropWhile Char.isDigit) = (fraction, rest))
    (hsome : s.takeWhile Char.isDigit = [] → fraction ≠ []) :
    ∃ m, IsPointedText (s.takeWhile Char.isDigit) fraction m ∧ s = m ++ rest := by
  have hsplit : s.takeWhile Char.isDigit ++ s.dropWhile Char.isDigit = s :=
    List.takeWhile_append_dropWhile
  generalize hwhole : s.takeWhile Char.isDigit = whole at hsome hsplit
  have hds : whole ≠ [] → IsDigits whole := by
    rw [← hwhole]
    exact isDigits_takeWhile
  rw [← hsplit]
  unfold takeFraction at h
  split at h
  · next r hr =>
      obtain ⟨hfraction, hrest⟩ := Prod.mk.inj h
      have hfs : fraction ≠ [] → IsDigits fraction := by
        rw [← hfraction]
        exact isDigits_takeWhile
      have hr' : fraction ++ rest = r := by
        rw [← hfraction, ← hrest]
        exact List.takeWhile_append_dropWhile
      rw [hr, ← hr']
      -- digits may be missing on one side of the point, but not on both
      by_cases hnone : whole = []
      · subst hnone
        exact ⟨_, .pointInFront (hfs (hsome rfl)), rfl⟩
      by_cases hnone' : fraction = []
      · subst hnone'
        exact ⟨_, .pointBehind (hds hnone), by simp⟩
      · exact ⟨_, .pointBetween (hds hnone) (hfs hnone'), by simp⟩
  · cases h
    exact ⟨_, .whole (hds fun hnone => hsome hnone rfl), rfl⟩

/-- Digits with a point are taken apart again, in front of a text that they do not go on with. -/
theorem IsPointedText.take_append {whole fraction m : List Char}
    (h : IsPointedText whole fraction m) {rest : List Char}
    (hrest : ∀ c ∈ rest.head?, c.isDigit = false ∧ c ≠ '.') :
    (m ++ rest).takeWhile Char.isDigit = whole ∧
      takeFraction ((m ++ rest).dropWhile Char.isDigit) = (fraction, rest) := by
  have hdigit : ∀ c ∈ rest.head?, c.isDigit = false := fun c hc => (hrest c hc).1
  have hpoint : ∀ s : List Char, ∀ c ∈ ('.' :: s).head?, c.isDigit = false := by
    rintro s c ⟨⟩
    rfl
  cases h with
  | whole hds =>
      obtain ⟨htake, hdrop⟩ := hds.takeWhile_append hdigit
      rw [htake, hdrop]
      exact ⟨rfl, takeFraction_of_head? fun c hc => (hrest c hc).2⟩
  | pointBehind hds =>
      obtain ⟨htake, hdrop⟩ := hds.takeWhile_append (hpoint rest)
      rw [List.append_assoc, List.singleton_append, htake, hdrop]
      refine ⟨rfl, ?_⟩
      cases rest with
      | nil => rfl
      | cons c r => simp [takeFraction, hdigit c rfl]
  | pointBetween hds hfs =>
      obtain ⟨htake, hdrop⟩ := hds.takeWhile_append (hpoint (fraction ++ rest))
      obtain ⟨htake', hdrop'⟩ := hfs.takeWhile_append hdigit
      rw [List.append_assoc, List.cons_append, htake, hdrop]
      exact ⟨rfl, Prod.ext htake' hdrop'⟩
  | pointInFront hfs =>
      obtain ⟨htake, hdrop⟩ := hfs.takeWhile_append hdigit
      exact ⟨rfl, Prod.ext htake hdrop⟩

/-! ## Numerals -/

/-- **The texts of numerals are read, and no others**, each as the numeral that it denotes. -/
theorem ofText?_eq_some_iff {text : List Char} {d : Decimal} :
    ofText? text = some d ↔ d.IsWritten text := by
  constructor
  · intro h
    rcases hsign : takeSign text with ⟨negative, unsigned⟩
    rcases hfraction : takeFraction (unsigned.dropWhile Char.isDigit) with ⟨fraction, rest⟩
    simp only [ofText?, hsign, hfraction] at h
    split_ifs at h with hempty
    obtain ⟨exponent, he, rfl⟩ := Option.map_eq_some_iff.mp h
    obtain ⟨s, hs, rfl⟩ := isSignText_of_takeSign hsign
    obtain ⟨m, hm, hunsigned⟩ := isPointedText_of_take hfraction (by simpa using hempty)
    rw [hunsigned]
    rw [hunsigned] at hm
    exact .parts hs hm (exponentOfText?_eq_some_iff.mp he)
  · intro h
    cases h with
    | @parts negative whole fraction s m e exponent hs hm he =>
        obtain ⟨htake, hfraction⟩ := hm.take_append he.head?
        have hsome : (whole.isEmpty && fraction.isEmpty) = false := by
          cases hm with
          | whole hds => simp [hds.1]
          | pointBehind hds => simp [hds.1]
          | pointBetween hds _ => simp [hds.1]
          | pointInFront hfs => simp [hfs.1]
        simp only [ofText?, hs.takeSign_append (hm.takeSign_append e), htake, hfraction, hsome,
          exponentOfText?_eq_some_iff.mpr he]
        rfl

/-! ## What numerals are written with -/

/-- The characters that numerals are written with besides digits. -/
def marks : List Char := ['+', '-', '.', 'e', 'E']

theorem IsSignText.mem_marks {negative : Bool} {s : List Char} (h : IsSignText negative s) :
    ∀ c ∈ s, c ∈ marks := by
  cases h <;> simp [marks]

theorem IsPointedText.isDigit_or_mem_marks {whole fraction m : List Char}
    (h : IsPointedText whole fraction m) : ∀ c ∈ m, c.isDigit = true ∨ c ∈ marks := by
  have hpoint : '.' ∈ marks := by decide
  cases h with
  | whole hds => exact fun c hc => Or.inl (hds.2 c hc)
  | pointBehind hds =>
      intro c hc
      rcases List.mem_append.mp hc with hc | hc
      · exact Or.inl (hds.2 c hc)
      · exact Or.inr (List.mem_singleton.mp hc ▸ hpoint)
  | pointBetween hds hfs =>
      intro c hc
      rcases List.mem_append.mp hc with hc | hc
      · exact Or.inl (hds.2 c hc)
      rcases List.mem_cons.mp hc with rfl | hc
      · exact Or.inr hpoint
      · exact Or.inl (hfs.2 c hc)
  | pointInFront hfs =>
      intro c hc
      rcases List.mem_cons.mp hc with rfl | hc
      · exact Or.inr hpoint
      · exact Or.inl (hfs.2 c hc)

theorem IsExponentText.isDigit_or_mem_marks {k : Int} {e : List Char} (h : IsExponentText k e) :
    ∀ c ∈ e, c.isDigit = true ∨ c ∈ marks := by
  cases h with
  | none => simp
  | mark hmark hs hds =>
      intro c hc
      rcases List.mem_cons.mp hc with rfl | hc
      · rcases hmark with rfl | rfl <;> exact Or.inr (by decide)
      rcases List.mem_append.mp hc with hc | hc
      · exact Or.inr (hs.mem_marks c hc)
      · exact Or.inl (hds.2 c hc)

/-- A numeral is written with digits, signs, points and the letter of the exponent. -/
theorem IsWritten.isDigit_or_mem_marks {d : Decimal} {text : List Char} (h : d.IsWritten text) :
    ∀ c ∈ text, c.isDigit = true ∨ c ∈ marks := by
  cases h with
  | parts hs hm he =>
      intro c hc
      rcases List.mem_append.mp hc with hc | hc
      · exact Or.inr (hs.mem_marks c hc)
      rcases List.mem_append.mp hc with hc | hc
      · exact hm.isDigit_or_mem_marks c hc
      · exact he.isDigit_or_mem_marks c hc

theorem exists_mem_of_isDigits {ds : List Char} (hds : IsDigits ds) : ∃ c ∈ ds, c.isDigit = true := by
  obtain ⟨c, r, rfl⟩ := List.exists_cons_of_ne_nil hds.1
  exact ⟨c, List.mem_cons_self, hds.2 c List.mem_cons_self⟩

theorem IsPointedText.exists_isDigit {whole fraction m : List Char}
    (h : IsPointedText whole fraction m) : ∃ c ∈ m, c.isDigit = true := by
  cases h with
  | whole hds => exact exists_mem_of_isDigits hds
  | pointBehind hds | pointBetween hds _ =>
      obtain ⟨c, hc, hdigit⟩ := exists_mem_of_isDigits hds
      exact ⟨c, List.mem_append_left _ hc, hdigit⟩
  | pointInFront hfs =>
      obtain ⟨c, hc, hdigit⟩ := exists_mem_of_isDigits hfs
      exact ⟨c, List.mem_cons_of_mem _ hc, hdigit⟩

/-- There is no numeral without a digit. -/
theorem IsWritten.exists_isDigit {d : Decimal} {text : List Char} (h : d.IsWritten text) :
    ∃ c ∈ text, c.isDigit = true := by
  cases h with
  | parts _ hm _ =>
      obtain ⟨c, hc, hdigit⟩ := hm.exists_isDigit
      exact ⟨c, List.mem_append_right _ (List.mem_append_left _ hc), hdigit⟩

/-- The last character of a text with digits at its end. -/
theorem getLast?_append_isDigits {ds : List Char} (hds : IsDigits ds) (s : List Char) :
    ∃ c, (s ++ ds).getLast? = some c ∧ c.isDigit = true := by
  refine ⟨ds.getLast hds.1, ?_, hds.2 _ (List.getLast_mem hds.1)⟩
  rw [List.getLast?_append_of_ne_nil s hds.1, List.getLast?_eq_some_getLast hds.1]

theorem IsPointedText.getLast?_append {whole fraction m : List Char}
    (h : IsPointedText whole fraction m) (s : List Char) :
    ∃ c, (s ++ m).getLast? = some c ∧ (c.isDigit = true ∨ c = '.') := by
  have hdigits : ∀ {ds : List Char}, IsDigits ds → ∀ t : List Char,
      ∃ c, (t ++ ds).getLast? = some c ∧ (c.isDigit = true ∨ c = '.') := by
    intro ds hds t
    obtain ⟨c, hc, hdigit⟩ := getLast?_append_isDigits hds t
    exact ⟨c, hc, Or.inl hdigit⟩
  cases h with
  | whole hds => exact hdigits hds s
  | pointBehind _ => exact ⟨'.', by rw [← List.append_assoc, List.getLast?_concat], Or.inr rfl⟩
  | pointBetween _ hfs => simpa using hdigits hfs (s ++ whole ++ ['.'])
  | pointInFront hfs => simpa using hdigits hfs (s ++ ['.'])

/-- A numeral ends with a digit or a point. -/
theorem IsWritten.getLast? {d : Decimal} {text : List Char} (h : d.IsWritten text) :
    ∃ c, text.getLast? = some c ∧ (c.isDigit = true ∨ c = '.') := by
  cases h with
  | @parts _ _ _ s m _ _ hs hm he =>
      cases he with
      | none =>
          rw [List.append_nil]
          exact hm.getLast?_append s
      | @mark mark _ s' ds _ _ hds =>
          obtain ⟨c, hc, hdigit⟩ := getLast?_append_isDigits hds (s ++ m ++ mark :: s')
          exact ⟨c, by simpa using hc, Or.inl hdigit⟩

/-! ## Exact values -/

theorem signed_lt_zero_iff {negative : Bool} {n : Nat} (h : signed negative n ≠ 0) :
    signed negative n < 0 ↔ negative = true := by
  cases negative <;> simp [signed] at h ⊢
  omega

/-- The exact value of a numeral. -/
def value (d : Decimal) : ℚ := signed d.negative d.digits * 10 ^ d.exponent

/-- A value is an integer if the integer, scaled like the digits, is what the digits are. -/
theorem value_eq_intCast_iff {d : Decimal} {n : Int} :
    d.value = n ↔
      signed d.negative d.digits * 10 ^ d.exponent.toNat = n * 10 ^ (-d.exponent).toNat := by
  unfold value
  generalize signed d.negative d.digits = k
  have hpow : ∀ p : Nat, (10 : ℚ) ^ p ≠ 0 := fun p => pow_ne_zero p (by decide)
  -- by the sign of the exponent, one of the two powers of ten is one
  rcases le_total 0 d.exponent with hexponent | hexponent
  · obtain ⟨p, hp⟩ := Int.eq_ofNat_of_zero_le hexponent
    have hnone : (-(p : Int)).toNat = 0 := by omega
    rw [hp, zpow_natCast, Int.toNat_natCast, hnone, pow_zero, mul_one]
    norm_cast
  · obtain ⟨p, hp⟩ := Int.exists_eq_neg_ofNat hexponent
    have hnone : (-(p : Int)).toNat = 0 := by omega
    rw [hp, zpow_neg, zpow_natCast, ← div_eq_mul_inv, div_eq_iff (hpow p), hnone, neg_neg,
      Int.toNat_natCast, pow_zero, mul_one]
    norm_cast

/-- A numeral has the value zero only if its digits are zeros. -/
theorem digits_eq_zero_of_value_eq {d : Decimal} (h : d.value = (0 : Int)) : d.digits = 0 := by
  rw [value_eq_intCast_iff, zero_mul] at h
  rcases Int.mul_eq_zero.mp h with hdigits | hpower
  · rw [← natAbs_signed d.negative d.digits, hdigits]
    rfl
  · exact absurd hpower (pow_ne_zero _ (by decide))

/-- **A numeral whose value is an integer is rounded like the integer.** -/
theorem nearest_of_value_eq {d : Decimal} {n : Int} (h : d.value = n) (hn : n ≠ 0) :
    d.nearest = Binary64.ofInt n := by
  rw [value_eq_intCast_iff] at h
  have hsign : ∀ (k : Int) (p : Nat), (k * 10 ^ p).sign = k.sign := by
    intro k p
    rw [Int.sign_mul, Int.sign_eq_one_of_pos (pow_pos (by decide) p), mul_one]
  -- powers of ten are positive, so the sign of the digits is that of the integer
  have hsame : (signed d.negative d.digits).sign = n.sign := by
    rw [← hsign _ d.exponent.toNat, h, hsign]
  have hnegative : d.negative = decide (n < 0) := by
    have hne : signed d.negative d.digits ≠ 0 := by
      rwa [Ne, ← Int.sign_eq_zero_iff_zero, hsame, Int.sign_eq_zero_iff_zero]
    rw [Bool.eq_iff_iff, decide_eq_true_iff, ← signed_lt_zero_iff hne,
      ← Int.sign_eq_neg_one_iff_neg, hsame, Int.sign_eq_neg_one_iff_neg]
  have hdigits : d.digits * 10 ^ d.exponent.toNat = n.natAbs * 10 ^ (-d.exponent).toNat := by
    have habs := congrArg Int.natAbs h
    rwa [Int.natAbs_mul, Int.natAbs_mul, Int.natAbs_pow, Int.natAbs_pow, natAbs_signed] at habs
  have hint : Binary64.ofInt n = nearest ⟨decide (n < 0), n.natAbs, 0⟩ :=
    (nearest_of_exponent_eq_zero (d := ⟨decide (n < 0), n.natAbs, 0⟩) rfl).symm
  rw [hint]
  refine nearest_congr hnegative ?_
  simpa using hdigits

end Decimal

end Specimen.Number
