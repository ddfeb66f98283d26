import Mathlib.Algebra.Order.Ring.Nat
import Specimen.Json.Numeral
import Specimen.Proofs.Number.Nearest
import Specimen.Proofs.Success

set_option autoImplicit false

/-! # The numbers of JSON numerals

How a numeral is evaluated, compared with the decimal number that it writes
(`Numeral.toDecimal`). Collecting digits either takes all of them, or it stops at a significand of
sixty binary digits or more (`Numeral.significand_cases`). Scaling rounds twice or more often, but
not if the significand and the power of ten are numbers of the format themselves.
-/

namespace Specimen.Json

open Specimen.Number

/-- The exponent that a numeral writes, or zero. -/
def Numeral.writtenExponent (n : Numeral) : Int :=
  let (negative, ds) := n.exponent.getD (false, [])
  Decimal.signed negative (Decimal.natOfDigits ds)

/-- The decimal number that a numeral writes. -/
def Numeral.toDecimal (n : Numeral) : Decimal where
  negative := n.negative
  digits := Decimal.natOfDigits (n.whole ++ n.fraction)
  exponent := n.writtenExponent - n.fraction.length

/-- The digits of a numeral are digits. -/
structure Numeral.IsDecimal (n : Numeral) : Prop where
  whole : ∀ c ∈ n.whole, c.isDigit = true
  fraction : ∀ c ∈ n.fraction, c.isDigit = true

/-! ## Collecting digits -/

theorem digitValue_le {c : Char} (h : c.isDigit = true) : Decimal.digitValue c ≤ 9 := by
  simp only [Char.isDigit, Bool.and_eq_true, decide_eq_true_eq] at h
  have hnine : c.toNat ≤ 57 := h.2
  show c.toNat - 48 ≤ 9
  omega

/-- A number with further digits behind its own. -/
def extend (s : Nat) (ds : List Char) : Nat := ds.foldl (fun n c => n * 10 + Decimal.digitValue c) s

theorem extend_append (s : Nat) (ds es : List Char) :
    extend s (ds ++ es) = extend (extend s ds) es :=
  List.foldl_append

theorem extend_le_extend {s t : Nat} (h : s ≤ t) (ds : List Char) : extend s ds ≤ extend t ds := by
  induction ds generalizing s t with
  | nil => exact h
  | cons d ds ih => exact ih (Nat.add_le_add_right (Nat.mul_le_mul_right 10 h) _)

theorem le_extend (s : Nat) (ds : List Char) : s ≤ extend s ds := by
  induction ds generalizing s with
  | nil => exact le_rfl
  | cons d ds ih =>
      refine le_trans ?_ (ih _)
      show s ≤ s * 10 + _
      omega

/-- A significand that a digit does not fit into has sixty binary digits. -/
theorem le_of_not_fits {s : Nat} {d : Char} (hd : d.isDigit = true)
    (h : ¬ fits s (Decimal.digitValue d) = true) : 2 ^ 60 ≤ s := by
  have hdigit := digitValue_le hd
  simp only [fits, decide_eq_true_eq, not_lt] at h
  omega

theorem collectWhole_le (s : Nat) (ds : List Char) : (collectWhole s ds).1 ≤ extend s ds := by
  induction ds generalizing s with
  | nil => exact le_rfl
  | cons d ds ih =>
      unfold collectWhole
      split_ifs
      · exact ih _
      · exact le_extend s (d :: ds)

/-- All digits are taken, or they stop to fit. -/
theorem collectWhole_cases {ds : List Char} (hds : ∀ c ∈ ds, c.isDigit = true) (s : Nat) :
    collectWhole s ds = (extend s ds, 0) ∨ 2 ^ 60 ≤ (collectWhole s ds).1 := by
  induction ds generalizing s with
  | nil => exact Or.inl rfl
  | cons d ds ih =>
      rw [List.forall_mem_cons] at hds
      unfold collectWhole
      split_ifs with hfits
      · exact ih hds.2 _
      · exact Or.inr (le_of_not_fits hds.1 hfits)

/-- Whole digits of which none is dropped are all collected. -/
theorem collectWhole_eq_extend {s : Nat} {ds : List Char} (h : (collectWhole s ds).2 = 0) :
    (collectWhole s ds).1 = extend s ds := by
  induction ds generalizing s with
  | nil => rfl
  | cons d ds ih =>
      unfold collectWhole at h ⊢
      split_ifs at h ⊢
      · exact ih h

theorem collectFraction_le (s : Nat) (ds : List Char) :
    s ≤ (collectFraction s ds).1 ∧ (collectFraction s ds).1 ≤ extend s ds ∧
      (collectFraction s ds).2 ≤ ds.length := by
  induction ds generalizing s with
  | nil => exact ⟨le_rfl, le_rfl, le_rfl⟩
  | cons d ds ih =>
      unfold collectFraction
      split_ifs
      · obtain ⟨hlow, hhigh, htaken⟩ := ih (s * 10 + Decimal.digitValue d)
        refine ⟨le_trans ?_ hlow, hhigh, Nat.succ_le_succ htaken⟩
        omega
      · exact ⟨le_rfl, le_extend s (d :: ds), Nat.zero_le _⟩

theorem collectFraction_cases {ds : List Char} (hds : ∀ c ∈ ds, c.isDigit = true) (s : Nat) :
    collectFraction s ds = (extend s ds, ds.length) ∨ 2 ^ 60 ≤ (collectFraction s ds).1 := by
  induction ds generalizing s with
  | nil => exact Or.inl rfl
  | cons d ds ih =>
      rw [List.forall_mem_cons] at hds
      unfold collectFraction
      split_ifs with hfits
      · rcases ih hds.2 (s * 10 + Decimal.digitValue d) with hall | hlong
        · rw [hall]
          exact Or.inl rfl
        · exact Or.inr hlong
      · exact Or.inr (le_of_not_fits hds.1 hfits)

/-- **All digits are collected, or at least sixty binary digits**; in the second case the exponent
is not smaller than if all were. -/
theorem Numeral.significand_cases {n : Numeral} (hn : n.IsDecimal) :
    n.significand = (n.toDecimal.digits, -(n.fraction.length : Int)) ∨
      2 ^ 60 ≤ n.significand.1 ∧ n.significand.1 ≤ n.toDecimal.digits ∧
        -(n.fraction.length : Int) ≤ n.significand.2 := by
  have hdigits : n.toDecimal.digits = extend (extend 0 n.whole) n.fraction :=
    extend_append 0 n.whole n.fraction
  have hwhole := collectWhole_le 0 n.whole
  obtain ⟨hlow, hhigh, htaken⟩ := collectFraction_le (collectWhole 0 n.whole).1 n.fraction
  have hexponent : -(n.fraction.length : Int) ≤ n.significand.2 := by
    show _ ≤ ((collectWhole 0 n.whole).2 : Int) - (collectFraction _ n.fraction).2
    omega
  have hle : n.significand.1 ≤ n.toDecimal.digits := by
    rw [hdigits]
    exact hhigh.trans (extend_le_extend hwhole _)
  rcases collectWhole_cases hn.whole 0 with hall | hlong
  · rcases collectFraction_cases hn.fraction (collectWhole 0 n.whole).1 with hall' | hlong
    · rw [hall] at hall'
      left
      simp only [hdigits, significand, hall, hall']
      simp
    · exact Or.inr ⟨hlong, hle, hexponent⟩
  · exact Or.inr ⟨hlong.trans hlow, hle, hexponent⟩

/-! ## Scaling -/

theorem units_powerOfTen {e : Nat} (he : e ≤ 22) :
    (powerOfTen e).units = 10 ^ e * Binary64.one := by
  have hdigits : 5 ^ e < 2 ^ 53 :=
    lt_of_le_of_lt (Nat.pow_le_pow_right (by decide) he) (by decide)
  have hten : 10 ^ e = 5 ^ e * 2 ^ e := Nat.mul_pow 5 2 e
  show (Binary64.ofNat (10 ^ e)).units = _
  rw [hten]
  exact Binary64.units_ofNat hdigits (by omega)

/-- A power of ten is rounded to at least one, and to at least `2⁵³` if it is not a number of the
format. -/
theorem le_units_powerOfTen (e : Nat) :
    Binary64.one ≤ (powerOfTen e).units ∧
      (22 < e → 2 ^ 53 * Binary64.one ≤ (powerOfTen e).units) := by
  rcases Nat.lt_or_ge 22 e with he | he
  · have hlarge : 2 ^ 53 ≤ 10 ^ e :=
      le_trans (by decide) (Nat.pow_le_pow_right (by decide) he)
    have hunits := (Binary64.of_largeRank_le (Binary64.largeRank_le_ofNat hlarge)).2
    exact ⟨le_trans (Nat.le_mul_of_pos_left _ (by decide)) hunits, fun _ => hunits⟩
  · rw [units_powerOfTen he]
    exact ⟨Nat.le_mul_of_pos_left _ (Nat.pow_pos (by decide)),
      fun h => absurd h (Nat.not_lt.mpr he)⟩

theorem scaled?_of_nonneg {x y : Binary64} {e : Int} (he : 0 ≤ e) (hx : x.isZero = false)
    (h : scaled? x e = some y) : y = x.mul (powerOfTen e.toNat) := by
  rw [scaled?, if_pos he] at h
  dsimp only at h
  split_ifs at h with hle hinfinite hzero
  · exact (Option.some.inj h).symm
  · rw [hx] at hzero
    cases hzero

theorem scaled?_of_neg {x : Binary64} {e : Int} (he : e < 0) (hlow : -largestExponent ≤ e) :
    scaled? x e = some (x.div (powerOfTen (-e).toNat)) := by
  rw [scaled?, if_neg (Int.not_le.mpr he), if_pos hlow]

/-- Zero stays zero, however it is scaled. -/
theorem rank_eq_zero_of_scaled? {x y : Binary64} {e : Int} (hx : x.rank = 0)
    (h : scaled? x e = some y) : y.rank = 0 := by
  have hunits : x.units = 0 := Binary64.units_of_rank_eq_zero hx
  have hzero : x.isZero = true := by simp [Binary64.isZero, hx]
  have hproduct : ∀ k den, nearestRank (x.units * k) den = 0 := by
    intro k den
    rw [hunits, Nat.zero_mul, nearestRank_zero]
  rw [scaled?] at h
  dsimp only at h
  split_ifs at h <;> cases h
  · exact hproduct _ _
  · exact hx
  · exact hproduct _ _
  · exact hx

/-- Digits and powers of ten that are numbers of the format have a finite product. -/
theorem exists_scaled?_of_short {digits : Nat} {e : Int} (hdigits : digits < 2 ^ 53)
    (hlow : -22 ≤ e) (hhigh : e ≤ 22) : ∃ x, scaled? (Binary64.ofNat digits) e = some x := by
  rcases lt_or_ge e 0 with hneg | hnonneg
  · exact ⟨_, scaled?_of_neg hneg (by simp only [largestExponent]; omega)⟩
  have hunits := Binary64.units_ofNat_of_lt hdigits
  have hpower := units_powerOfTen (e := e.toNat) (by omega)
  have hrank := Binary64.rank_mul hunits hpower
  obtain ⟨unit, hone, hunit⟩ : ∃ n, Binary64.one = 2 ^ n ∧ n = 1074 := ⟨_, Binary64.one_eq, rfl⟩
  have hproduct : digits * 10 ^ e.toNat < 2 ^ 127 :=
    calc digits * 10 ^ e.toNat ≤ 2 ^ 53 * 10 ^ 22 :=
          Nat.mul_le_mul hdigits.le (Nat.pow_le_pow_right (by decide) (by omega))
      _ < 2 ^ 127 := by decide
  have hfinite : ((Binary64.ofNat digits).mul (powerOfTen e.toNat)).isInfinite = false := by
    refine beq_eq_false_iff_ne.mpr (ne_of_lt ?_)
    rw [hrank]
    refine nearestRank_lt_infinityRank (127 + unit) ?_ (by omega)
    rw [Nat.div_one, Nat.pow_add, hone]
    exact Nat.mul_lt_mul_of_pos_right hproduct (Nat.two_pow_pos _)
  refine ⟨(Binary64.ofNat digits).mul (powerOfTen e.toNat), ?_⟩
  rw [scaled?, if_pos hnonneg, if_pos (by simp only [largestExponent]; omega)]
  dsimp only
  rw [if_neg (ne_true_of_eq_false hfinite)]

/-! ## The value of a numeral -/

theorem exponentLimit_lt_of_behindLimit? {v : Nat} {ds more : List Char}
    (h : behindLimit? v ds = some more) : exponentLimit < extend v ds := by
  induction ds generalizing v with
  | nil => cases h
  | cons d ds ih =>
      unfold behindLimit? at h
      dsimp only at h
      split_ifs at h with hlimit
      · exact lt_of_lt_of_le hlimit (le_extend _ ds)
      · exact ih h

/-- An exponent within the limit is computed with. -/
theorem Numeral.behindLimit?_writtenExponent {n : Numeral}
    (h : n.writtenExponent.natAbs ≤ exponentLimit) :
    behindLimit? 0 (n.exponent.getD (false, [])).2 = none := by
  by_contra hsome
  obtain ⟨more, hmore⟩ := Option.ne_none_iff_exists'.mp hsome
  have hexceeds := exponentLimit_lt_of_behindLimit? hmore
  have hwritten : n.writtenExponent.natAbs = extend 0 (n.exponent.getD (false, [])).2 :=
    Decimal.natAbs_signed _ _
  omega

theorem negative_withSign {x : Binary64} (hx : x.negative = false) (negative : Bool) :
    (Numeral.withSign negative x).negative = negative := by
  cases negative with
  | false => exact hx
  | true =>
      show (!x.negative) = true
      rw [hx]
      rfl

theorem rank_withSign (negative : Bool) (x : Binary64) :
    (Numeral.withSign negative x).rank = x.rank := by
  cases negative <;> rfl

/-- Scaling keeps the sign. -/
theorem negative_of_scaled? {x y : Binary64} {e : Int} (hx : x.negative = false)
    (h : scaled? x e = some y) : y.negative = false := by
  have hkeep : ∀ k, (x.negative != (powerOfTen k).negative) = false := by
    intro k
    rw [hx]
    rfl
  rw [scaled?] at h
  dsimp only at h
  split_ifs at h
  · cases h
    exact hkeep _
  · cases h
    exact hx
  · cases h
    exact hkeep _
  · cases h
    exact hx
  · exact negative_of_scaled? (x := x.div (powerOfTen largestExponent)) (hkeep _) h
termination_by (-e).toNat
decreasing_by simp only [largestExponent] at *; omega

/-- **Where a numeral's number comes from**: its significand is scaled, unless the exponent exceeds
its limit, and then the number is zero. The sign is that of the numeral. -/
theorem Numeral.float?_cases {n : Numeral} {rest : List Char} {y : Binary64}
    (h : n.float? rest = .ok y) :
    y.negative = n.negative ∧
      ((y.rank = 0 ∧ (n.significand.1 = 0 ∨ n.writtenExponent < -exponentLimit)) ∨
        ∃ x, scaled? (Binary64.ofNat n.significand.1)
            (n.significand.2 + n.writtenExponent) = some x ∧
          y.rank = x.rank) := by
  unfold float? at h
  dsimp only at h
  split at h
  · next more hmore =>
      split_ifs at h with hzero
      cases h
      refine ⟨negative_withSign rfl _, Or.inl ⟨rank_withSign _ _, ?_⟩⟩
      rcases Bool.or_eq_true_iff.mp hzero with hzero | hnegative
      · exact Or.inl (by simpa using hzero)
      · right
        have hlimit := exponentLimit_lt_of_behindLimit? hmore
        unfold writtenExponent
        simp only [hnegative, Decimal.signed, if_true]
        show -((extend 0 _ : Nat) : Int) < _
        omega
  · split at h
    · next x hx =>
        cases h
        exact ⟨negative_withSign (negative_of_scaled? rfl hx) _, Or.inr ⟨x, hx, rank_withSign _ _⟩⟩
    · cases h

/-- A numeral has a number, whatever text is behind it, or is out of range. -/
theorem Numeral.float?_total (n : Numeral) :
    (∃ x, ∀ rest, n.float? rest = .ok x) ∨
      ∀ rest, ∃ f, n.float? rest = .error f ∧ f.cause = .numberOutOfRange := by
  unfold float?
  dsimp only
  split
  · split_ifs
    · exact Or.inl ⟨_, fun _ => rfl⟩
    · exact Or.inr fun _ => ⟨_, rfl, rfl⟩
  · split
    · exact Or.inl ⟨_, fun _ => rfl⟩
    · exact Or.inr fun _ => ⟨_, rfl, rfl⟩

theorem Numeral.toNumber_total (n : Numeral) :
    (∃ x, ∀ rest, n.toNumber rest = .ok x) ∨
      ∀ rest, ∃ f, n.toNumber rest = .error f ∧ f.cause = .numberOutOfRange := by
  unfold toNumber
  cases n.integer? with
  | some i => exact Or.inl ⟨.integer i, fun _ => rfl⟩
  | none =>
      rcases n.float?_total with ⟨x, hx⟩ | hnone
      · exact Or.inl ⟨.float x, fun rest => congrArg (Except.map Number.float) (hx rest)⟩
      · refine Or.inr fun rest => ?_
        obtain ⟨f, hf, hcause⟩ := hnone rest
        exact ⟨f, congrArg (Except.map Number.float) hf, hcause⟩

section Float

variable {n : Numeral} {rest : List Char} {y : Binary64}

/-- A zero, however it is written, has the number zero. -/
theorem Numeral.rank_float_of_digits_eq_zero (hn : n.IsDecimal) (h : n.float? rest = .ok y)
    (hdigits : n.toDecimal.digits = 0) : y.rank = 0 := by
  have hsignificand : n.significand.1 = 0 := by
    rcases significand_cases hn with hall | ⟨hlong, hle, _⟩
    · rw [hall, hdigits]
    · omega
  rcases (float?_cases h).2 with ⟨hzero, _⟩ | ⟨x, hx, hrank⟩
  · exact hzero
  · rw [hrank]
    refine rank_eq_zero_of_scaled? ?_ hx
    show nearestRank (n.significand.1 * Binary64.one) 1 = 0
    rw [hsignificand, Nat.zero_mul, nearestRank_zero]

/-- **A short numeral has the nearest number.** -/
theorem Numeral.rank_float_of_isShort (hn : n.IsDecimal) (h : n.float? rest = .ok y)
    (hdigits : n.toDecimal.digits ≠ 0) (hshort : n.toDecimal.IsShort) :
    y.rank = n.toDecimal.nearest.rank := by
  obtain ⟨hfits, hlow, hhigh⟩ := hshort
  -- the digits are too few for one of them not to be collected
  have hall : n.significand = (n.toDecimal.digits, -(n.fraction.length : Int)) := by
    rcases significand_cases hn with hall | ⟨hlong, hle, _⟩
    · exact hall
    · omega
  have hexponent : n.toDecimal.exponent = -(n.fraction.length : Int) + n.writtenExponent := by
    show n.writtenExponent - (n.fraction.length : Int) = _
    omega
  have hunits := Binary64.units_ofNat_of_lt hfits
  rcases (float?_cases h).2 with ⟨_, hzero | hlimit⟩ | ⟨x, hx, hrank⟩
  · rw [hall] at hzero
    exact absurd hzero hdigits
  · simp only [exponentLimit] at hlimit
    omega
  · rw [hall, ← hexponent] at hx
    rw [hrank]
    rcases lt_or_ge n.toDecimal.exponent 0 with hneg | hnonneg
    · have hpower := units_powerOfTen (e := (-n.toDecimal.exponent).toNat) (by omega)
      rw [scaled?_of_neg hneg (by simp only [largestExponent]; omega)] at hx
      rw [← Option.some.inj hx, Binary64.rank_div hunits hpower,
        Decimal.rank_nearest_of_isShort_of_neg ⟨hfits, hlow, hhigh⟩ hdigits hneg]
    · have hpower := units_powerOfTen (e := n.toDecimal.exponent.toNat) (by omega)
      rw [scaled?_of_nonneg hnonneg (Binary64.isZero_ofNat hdigits) hx,
        Binary64.rank_mul hunits hpower,
        Decimal.rank_nearest_of_isShort_of_nonneg ⟨hfits, hlow, hhigh⟩ hdigits hnonneg]

/-- **A short numeral has a number, the nearest**, if its exponent is within the limit. -/
theorem Numeral.float?_of_isShort (hn : n.IsDecimal) (hshort : n.toDecimal.IsShort)
    (hwritten : n.writtenExponent.natAbs ≤ exponentLimit) (rest : List Char) :
    n.float? rest = .ok n.toDecimal.nearest := by
  have hall : n.significand = (n.toDecimal.digits, -(n.fraction.length : Int)) := by
    rcases significand_cases hn with hall | ⟨hlong, hle, _⟩
    · exact hall
    · have := hshort.1
      omega
  have hexponent : n.significand.2 + Decimal.signed (n.exponent.getD (false, [])).1
      (Decimal.natOfDigits (n.exponent.getD (false, [])).2) = n.toDecimal.exponent := by
    rw [hall]
    show -(n.fraction.length : Int) + n.writtenExponent = n.writtenExponent - n.fraction.length
    omega
  obtain ⟨x, hx⟩ := exists_scaled?_of_short hshort.1 hshort.2.1 hshort.2.2
  have hfloat : n.float? rest = .ok (withSign n.negative x) := by
    unfold float?
    dsimp only
    rw [behindLimit?_writtenExponent hwritten, hexponent, hall, hx]
  have hsign : (withSign n.negative x).negative = n.toDecimal.nearest.negative :=
    (float?_cases hfloat).1.trans (Decimal.negative_nearest n.toDecimal).symm
  have hrank : (withSign n.negative x).rank = n.toDecimal.nearest.rank := by
    by_cases hdigits : n.toDecimal.digits = 0
    · rw [rank_float_of_digits_eq_zero hn hfloat hdigits,
        Decimal.rank_nearest_of_digits_eq_zero hdigits]
    · exact rank_float_of_isShort hn hfloat hdigits hshort
  rw [hfloat, Binary64.ext hsign hrank]

/-- **A large integer has a large number**, though not always the nearest. -/
theorem Numeral.largeRank_le_rank_float (hn : n.IsDecimal) (h : n.float? rest = .ok y)
    (hlarge : n.toDecimal.IsLarge) : largeRank ≤ y.rank ∧ y.rank ≤ Binary64.infinityRank := by
  obtain ⟨hdigits, hexponent, hlarge⟩ := hlarge
  have hwritten : n.toDecimal.exponent = n.writtenExponent - (n.fraction.length : Int) := rfl
  -- whether all digits are collected or not, what is scaled is as large
  have hscaled : n.significand.1 ≠ 0 ∧ 0 ≤ n.significand.2 + n.writtenExponent ∧
      (2 ^ 53 ≤ n.significand.1 ∨ 22 < n.significand.2 + n.writtenExponent) := by
    rcases significand_cases hn with hall | ⟨hlong, _, hle⟩
    · rw [hall]
      exact ⟨hdigits, by omega, hlarge.imp id fun h => by omega⟩
    · exact ⟨by omega, by omega, Or.inl (by omega)⟩
  obtain ⟨hnonzero, hnonneg, hlarge⟩ := hscaled
  rcases (float?_cases h).2 with ⟨_, hzero | hlimit⟩ | ⟨x, hx, hrank⟩
  · exact absurd hzero hnonzero
  · simp only [exponentLimit] at hlimit
    omega
  · rw [hrank, scaled?_of_nonneg hnonneg (Binary64.isZero_ofNat hnonzero) hx]
    have hunits := Binary64.le_units_ofNat hnonzero
    have hpower := le_units_powerOfTen (n.significand.2 + n.writtenExponent).toNat
    refine ⟨Binary64.largeRank_le_mul hunits.1 hpower.1 ?_, nearestRank_le_infinityRank _ _⟩
    exact hlarge.imp hunits.2 fun h => hpower.2 (by omega)

end Float

/-- Where an integer comes from: all digits are collected, and a negative one is not zero. -/
theorem Numeral.integer?_cases {n : Numeral} {i : Int} (h : n.integer? = some i) :
    n.fraction = [] ∧ n.exponent = none ∧ i = Decimal.signed n.negative (extend 0 n.whole) ∧
      (n.negative = true → extend 0 n.whole ≠ 0) := by
  unfold integer? at h
  dsimp only at h
  split_ifs at h with hplain hdropped hsign hrange
  · rw [not_ne_iff] at hdropped
    simp only [Bool.and_eq_true, List.isEmpty_iff, Option.isNone_iff_eq_none] at hplain
    rw [Bool.not_eq_true'] at hsign
    rw [collectWhole_eq_extend hdropped, Option.some.injEq] at h
    rw [hsign]
    exact ⟨hplain.1, hplain.2, h.symm, fun hnegative => nomatch hnegative⟩
  · rw [not_ne_iff] at hdropped
    simp only [Bool.and_eq_true, List.isEmpty_iff, Option.isNone_iff_eq_none] at hplain
    rw [Bool.not_eq_true', Bool.not_eq_false] at hsign
    rw [collectWhole_eq_extend hdropped, Option.some.injEq] at h
    rw [collectWhole_eq_extend hdropped, not_or] at hrange
    rw [hsign]
    exact ⟨hplain.1, hplain.2, h.symm, fun _ => hrange.1⟩

/-- **An integer of at most 64 bits is rounded once.** -/
theorem Numeral.ofInt_of_integer? {n : Numeral} {i : Int} (h : n.integer? = some i) :
    Binary64.ofInt i = n.toDecimal.nearest := by
  obtain ⟨hfraction, hexponent, hi, hnonzero⟩ := integer?_cases h
  have hzero : n.toDecimal.exponent = 0 := by
    simp [toDecimal, writtenExponent, hfraction, hexponent, Decimal.signed, Decimal.natOfDigits]
  have hdigits : n.toDecimal.digits = extend 0 n.whole := by
    simp only [toDecimal, hfraction, List.append_nil]
    rfl
  have hsign : decide (i < 0) = n.negative := by
    rw [hi]
    cases hnegative : n.negative with
    | true =>
        have := hnonzero hnegative
        simp only [Decimal.signed, if_true, decide_eq_true_eq]
        omega
    | false => simp [Decimal.signed]
  have hmagnitude : i.natAbs = extend 0 n.whole := by
    rw [hi, Decimal.natAbs_signed]
  rw [Decimal.nearest_of_exponent_eq_zero hzero, Binary64.ofInt, hsign, hmagnitude, hdigits]
  rfl

/-- The number of a numeral that is divided by a power of ten once. -/
theorem Numeral.toNumber_of_neg {n : Numeral} (hinteger : n.integer? = none)
    (hlimit : behindLimit? 0 (n.exponent.getD (false, [])).2 = none)
    (hneg : n.significand.2 + n.writtenExponent < 0)
    (hlow : -largestExponent ≤ n.significand.2 + n.writtenExponent) (rest : List Char) :
    n.toNumber rest = .ok (.float (withSign n.negative
      ((Binary64.ofNat n.significand.1).div
        (powerOfTen (-(n.significand.2 + n.writtenExponent)).toNat)))) := by
  have hfloat : n.float? rest = .ok (withSign n.negative
      ((Binary64.ofNat n.significand.1).div
        (powerOfTen (-(n.significand.2 + n.writtenExponent)).toNat))) := by
    unfold float?
    dsimp only
    rw [hlimit]
    have hexponent : n.significand.2 + Decimal.signed (n.exponent.getD (false, [])).1
        (Decimal.natOfDigits (n.exponent.getD (false, [])).2)
        = n.significand.2 + n.writtenExponent := rfl
    rw [hexponent, scaled?_of_neg hneg hlow]
  rw [toNumber, hinteger, hfloat]
  rfl

end Specimen.Json
