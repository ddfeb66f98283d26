set_option autoImplicit false

/-! # Parts of a separated text

Cutting a text at a separator: at its last occurrence (`splitAtLast`), which undoes joining two
texts by the separator when the second has none, and at every occurrence (`segments`).
-/

namespace Specimen.Text

/-- The text before and the text after the last `sep`, if there is one. -/
def splitAtLast (sep : Char) : List Char → Option (List Char × List Char)
  | [] => none
  | c :: r =>
    match splitAtLast sep r with
    | some (before, after) => some (c :: before, after)
    | none => if c = sep then some ([], r) else none

/-- The parts between the occurrences of `sep`; a text without one is its only part. -/
def segments (sep : Char) : List Char → List (List Char)
  | [] => [[]]
  | c :: r =>
    if c = sep then [] :: segments sep r
    else
      match segments sep r with
      | [] => [[c]]
      | part :: parts => (c :: part) :: parts

/-- A text has no last occurrence of a separator exactly when it does not hold it. -/
theorem splitAtLast_eq_none_iff {sep : Char} {s : List Char} :
    splitAtLast sep s = none ↔ sep ∉ s := by
  induction s with
  | nil => simp [splitAtLast]
  | cons c r ih =>
    simp only [splitAtLast, List.mem_cons, not_or]
    cases h : splitAtLast sep r with
    | some p => simpa [h] using fun _ => (not_congr ih).1 (by simp [h])
    | none =>
      have hr : sep ∉ r := ih.1 h
      by_cases hc : c = sep
      · simp [hc]
      · simp [hc, hr, Ne.symm hc]

/-- Joining by a separator that the second text does not hold is undone by splitting. -/
theorem splitAtLast_append {sep : Char} {before after : List Char} (h : sep ∉ after) :
    splitAtLast sep (before ++ sep :: after) = some (before, after) := by
  induction before with
  | nil => simp [splitAtLast, splitAtLast_eq_none_iff.2 h]
  | cons c r ih => simp [splitAtLast, ih]

/-- The two parts of a text, joined again, are the text, and the second part does not hold the
separator. -/
theorem eq_append_of_splitAtLast {sep : Char} {s before after : List Char}
    (h : splitAtLast sep s = some (before, after)) :
    s = before ++ sep :: after ∧ sep ∉ after := by
  induction s generalizing before with
  | nil => simp [splitAtLast] at h
  | cons c r ih =>
    simp only [splitAtLast] at h
    cases hr : splitAtLast sep r with
    | some p =>
      obtain ⟨b, a⟩ := p
      simp only [hr, Option.some.injEq, Prod.mk.injEq] at h
      obtain ⟨rfl, rfl⟩ := h
      have := ih hr
      exact ⟨by simp [this.1], this.2⟩
    | none =>
      simp only [hr] at h
      split at h
      · rename_i hc
        simp only [Option.some.injEq, Prod.mk.injEq] at h
        obtain ⟨rfl, rfl⟩ := h
        exact ⟨by simp [hc], splitAtLast_eq_none_iff.1 hr⟩
      · simp at h

end Specimen.Text
