import Mathlib.Data.List.Chain
import Specimen.Text.Segments

set_option autoImplicit false

/-! # Segments of a text

Where the segments of a text come from: no segment holds the separator, joining two texts by the
separator puts their segments one after the other (`segments_append_cons`), and a text without
the separator is its only segment. Which characters start a segment is a fact about neighbours
(`segments_avoid_iff`): a segment starts with `d` exactly where `d` stands behind the separator or
in front of the text.
-/

namespace Specimen.Text

variable {sep : Char}

theorem segments_ne_nil (s : List Char) : segments sep s ≠ [] := by
  cases s with
  | nil => simp [segments]
  | cons c r =>
      unfold segments
      split_ifs
      · simp
      · split <;> simp

theorem segments_cons_self (r : List Char) : segments sep (sep :: r) = [] :: segments sep r := by
  rw [segments, if_pos rfl]

/-- A character in front that is not the separator belongs to the first segment. -/
theorem segments_cons_of_ne {c : Char} (h : c ≠ sep) (r : List Char) :
    segments sep (c :: r) = (c :: (segments sep r).headD []) :: (segments sep r).tail := by
  rw [segments, if_neg h]
  cases hr : segments sep r with
  | nil => exact absurd hr (segments_ne_nil r)
  | cons part parts => rfl

/-- The same, with the segments of the rest by name. -/
theorem exists_segments_cons {c : Char} (h : c ≠ sep) (r : List Char) :
    ∃ first others, segments sep r = first :: others ∧
      segments sep (c :: r) = (c :: first) :: others := by
  have hne : segments sep r ≠ [] := segments_ne_nil r
  obtain ⟨first, others, hr⟩ := List.exists_cons_of_ne_nil hne
  refine ⟨first, others, hr, ?_⟩
  rw [segments_cons_of_ne h, hr]
  rfl

theorem segments_of_not_mem {s : List Char} (h : sep ∉ s) : segments sep s = [s] := by
  induction s with
  | nil => rfl
  | cons c r ih =>
      rw [List.mem_cons, not_or] at h
      rw [segments_cons_of_ne (Ne.symm h.1), ih h.2]
      rfl

/-- **Joining by the separator joins the segments.** -/
theorem segments_append_cons (s t : List Char) :
    segments sep (s ++ sep :: t) = segments sep s ++ segments sep t := by
  induction s with
  | nil => exact segments_cons_self t
  | cons c r ih =>
      by_cases h : c = sep
      · subst h
        rw [List.cons_append, segments_cons_self, segments_cons_self, ih]
        rfl
      · obtain ⟨first, others, hr, hc⟩ := exists_segments_cons h r
        rw [List.cons_append, segments_cons_of_ne h, ih, hc, hr]
        rfl

theorem not_mem_of_mem_segments {s part : List Char} (h : part ∈ segments sep s) : sep ∉ part := by
  induction s generalizing part with
  | nil =>
      rw [segments, List.mem_singleton] at h
      simp [h]
  | cons c r ih =>
      by_cases hc : c = sep
      · subst hc
        rw [segments_cons_self] at h
        rcases List.mem_cons.mp h with rfl | h
        · exact List.not_mem_nil
        · exact ih h
      · obtain ⟨first, others, hr, hcr⟩ := exists_segments_cons hc r
        rw [hcr] at h
        rw [hr] at ih
        rcases List.mem_cons.mp h with rfl | h
        · rw [List.mem_cons, not_or]
          exact ⟨Ne.symm hc, ih List.mem_cons_self⟩
        · exact ih (List.mem_cons_of_mem _ h)

/-- A text is told by its segments. -/
theorem segments_injective : Function.Injective (segments sep) := by
  have hcons : ∀ (c : Char) (r : List Char), segments sep (c :: r) ≠ [[]] := by
    intro c r h
    by_cases hc : c = sep
    · rw [hc, segments_cons_self] at h
      exact segments_ne_nil r (List.cons.inj h).2
    · rw [segments_cons_of_ne hc] at h
      cases h
  intro s t h
  induction s generalizing t with
  | nil =>
      cases t with
      | nil => rfl
      | cons d q => exact absurd h.symm (hcons d q)
  | cons c r ih =>
      cases t with
      | nil => exact absurd h (hcons c r)
      | cons d q =>
          -- the first segment is empty exactly if the separator is in front
          by_cases hc : c = sep <;> by_cases hd : d = sep
          · subst hc hd
            rw [segments_cons_self, segments_cons_self] at h
            rw [ih (List.cons.inj h).2]
          · rw [hc, segments_cons_self, segments_cons_of_ne hd] at h
            cases h
          · rw [hd, segments_cons_self, segments_cons_of_ne hc] at h
            cases h
          · obtain ⟨first, others, hr, hcr⟩ := exists_segments_cons hc r
            obtain ⟨first', others', hq, hdq⟩ := exists_segments_cons hd q
            rw [hcr, hdq] at h
            obtain ⟨⟨rfl, rfl⟩, rfl⟩ : (c = d ∧ first = first') ∧ others = others' := by
              simpa using h
            rw [ih (hr.trans hq.symm)]

/-- The characters of a segment stand in the text, in this order. -/
theorem sublist_of_mem_segments {s part : List Char} (h : part ∈ segments sep s) :
    part.Sublist s := by
  induction s generalizing part with
  | nil =>
      rw [segments, List.mem_singleton] at h
      rw [h]
  | cons c r ih =>
      by_cases hc : c = sep
      · subst hc
        rw [segments_cons_self] at h
        rcases List.mem_cons.mp h with rfl | h
        · exact List.nil_sublist _
        · exact (ih h).cons c
      · obtain ⟨first, others, hr, hcr⟩ := exists_segments_cons hc r
        rw [hcr] at h
        rw [hr] at ih
        rcases List.mem_cons.mp h with rfl | h
        · exact (ih List.mem_cons_self).cons_cons c
        · exact (ih (List.mem_cons_of_mem _ h)).cons c

/-- Every character but the separator stands in a segment. -/
theorem exists_mem_segments {s : List Char} {c : Char} (hc : c ∈ s) (hsep : c ≠ sep) :
    ∃ part ∈ segments sep s, c ∈ part := by
  induction s with
  | nil => cases hc
  | cons d r ih =>
      by_cases hd : d = sep
      · subst hd
        obtain ⟨part, hpart, hmem⟩ := ih ((List.mem_cons.mp hc).resolve_left hsep)
        rw [segments_cons_self]
        exact ⟨part, List.mem_cons_of_mem _ hpart, hmem⟩
      · obtain ⟨first, others, hr, hdr⟩ := exists_segments_cons hd r
        rw [hdr]
        rcases List.mem_cons.mp hc with rfl | hc
        · exact ⟨_, List.mem_cons_self, List.mem_cons_self⟩
        · -- the segment that holds `c` in the rest is the first one, which `d` joins, or a later one
          obtain ⟨part, hpart, hmem⟩ := ih hc
          rw [hr] at hpart
          rcases List.mem_cons.mp hpart with rfl | hpart
          · exact ⟨_, List.mem_cons_self, List.mem_cons_of_mem _ hmem⟩
          · exact ⟨part, List.mem_cons_of_mem _ hpart, hmem⟩

/-! ## What a segment starts with -/

theorem head?_headD_segments {d : Char} (hd : d ≠ sep) (s : List Char) :
    ((segments sep s).headD []).head? = some d ↔ s.head? = some d := by
  cases s with
  | nil => rfl
  | cons c r =>
      by_cases hc : c = sep
      · subst hc
        rw [segments_cons_self]
        simp [Ne.symm hd]
      · rw [segments_cons_of_ne hc]
        rfl

/-- No segment behind the first one starts with `d`: in the text `d` stands nowhere behind the
separator. -/
theorem tail_segments_avoid_iff {d : Char} (hd : d ≠ sep) (s : List Char) :
    (∀ part ∈ (segments sep s).tail, part.head? ≠ some d) ↔
      s.IsChain (fun a b => ¬ (a = sep ∧ b = d)) := by
  induction s with
  | nil => simp [segments]
  | cons c r ih =>
      rw [List.isChain_cons]
      by_cases hc : c = sep
      · subst hc
        rw [segments_cons_self, List.tail_cons]
        -- the first segment of the rest now counts too, by what the rest starts with
        have hne : segments c r ≠ [] := segments_ne_nil r
        obtain ⟨first, others, hr⟩ := List.exists_cons_of_ne_nil hne
        have hfirst := head?_headD_segments hd r
        rw [hr] at ih hfirst ⊢
        rw [List.forall_mem_cons, ← ih]
        refine and_congr_left fun _ => ?_
        simp only [List.headD_cons] at hfirst
        rw [Ne, hfirst]
        constructor
        · rintro h b hb ⟨-, rfl⟩
          exact h hb
        · exact fun h hb => h d hb ⟨rfl, rfl⟩
      · rw [segments_cons_of_ne hc, List.tail_cons, ih]
        exact (and_iff_right fun b _ hb => hc hb.1).symm

/-- **No segment starts with `d`** if neither the text does nor any rest of it behind the
separator. -/
theorem segments_avoid_iff {d : Char} (hd : d ≠ sep) (s : List Char) :
    (∀ part ∈ segments sep s, part.head? ≠ some d) ↔
      (sep :: s).IsChain (fun a b => ¬ (a = sep ∧ b = d)) := by
  rw [← tail_segments_avoid_iff hd, segments_cons_self, List.tail_cons]

end Specimen.Text
