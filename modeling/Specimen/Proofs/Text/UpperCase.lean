import Mathlib.Data.List.Basic
import Specimen.Text.UpperCase

set_option autoImplicit false

/-! # Characters of an upper case

What the mapping tables keep: a character's upper case is never empty, and it consists of the
character itself or of characters from `A` on in the order of code points. So capitalizing a name
brings no separator into it, neither a point nor a slash.
-/

namespace Specimen.Text

/-- The code points of a run and of their upper case lie on one side of the gap between the
characters, and the upper case starts at `A` or behind it. -/
def CaseRun.isRegular (run : CaseRun) : Bool :=
  0x41 ≤ run.first + run.offset &&
    (run.last + run.offset < 0xD800 ||
      (0xE000 ≤ run.first + run.offset && run.last + run.offset < 0x110000))

theorem caseRuns_regular : caseRuns.all CaseRun.isRegular = true := by decide

/-- A special upper case consists of characters from `A` on. -/
theorem specialUpperCases_regular : specialUpperCases.all (fun entry =>
    !entry.2.isEmpty && entry.2.all fun n => 0x41 ≤ n && decide n.isValidChar) = true := by
  decide +kernel

theorem toNat_ofNat {n : Nat} (h : n.isValidChar) : (Char.ofNat n).toNat = n := by
  rw [Char.ofNat, dif_pos h]
  rfl

/-- The code point in a regular run's upper case is that of a character from `A` on. -/
theorem CaseRun.le_toNat_ofNat {run : CaseRun} (hrun : run.isRegular = true) {n : Nat}
    (hn : run.contains n = true) : 0x41 ≤ (Char.ofNat (n + run.offset).toNat).toNat := by
  simp only [isRegular, contains, Bool.and_eq_true, Bool.or_eq_true, decide_eq_true_eq] at hrun hn
  have hvalid : (n + run.offset).toNat.isValidChar := by
    unfold Nat.isValidChar
    omega
  rw [toNat_ofNat hvalid]
  omega

theorem specialUpperCase_regular {n : Nat} {codes : List Nat}
    (h : specialUpperCases.lookup n = some codes) :
    codes ≠ [] ∧ ∀ m ∈ codes, 0x41 ≤ m ∧ m.isValidChar := by
  obtain ⟨before, after, hsplit, _⟩ := List.lookup_eq_some_iff.mp h
  have hmem : (n, codes) ∈ specialUpperCases := by
    rw [hsplit]
    exact List.mem_append_right _ List.mem_cons_self
  simpa only [Bool.and_eq_true, Bool.not_eq_true', List.isEmpty_eq_false_iff, List.all_eq_true,
    decide_eq_true_eq] using List.all_eq_true.mp specialUpperCases_regular _ hmem

theorem upperCase_ne_nil (c : Char) : upperCase c ≠ [] := by
  unfold upperCase
  split
  · next codes hcodes => simpa using (specialUpperCase_regular hcodes).1
  · split <;> simp

/-- **An upper case is the character itself or consists of characters from `A` on.** -/
theorem eq_or_le_of_mem_upperCase {c d : Char} (h : d ∈ upperCase c) : d = c ∨ 0x41 ≤ d.toNat := by
  unfold upperCase at h
  split at h
  · next codes hcodes =>
      obtain ⟨n, hn, rfl⟩ := List.mem_map.mp h
      obtain ⟨hle, hvalid⟩ := (specialUpperCase_regular hcodes).2 n hn
      exact Or.inr (by rwa [toNat_ofNat hvalid])
  · split at h
    · next run hrun =>
        rw [List.mem_singleton.mp h]
        have hregular := List.all_eq_true.mp caseRuns_regular run (List.mem_of_find?_eq_some hrun)
        have hcontains : run.contains c.toNat = true := by simpa using List.find?_some hrun
        exact Or.inr (run.le_toNat_ofNat hregular hcontains)
    · exact Or.inl (List.mem_singleton.mp h)

end Specimen.Text
