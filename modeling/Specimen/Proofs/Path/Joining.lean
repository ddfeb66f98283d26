import Specimen.Path
import Specimen.Proofs.Text.Segments

set_option autoImplicit false

/-! # Joining paths

What the joined path leads to. Joining is absolute as soon as one of the paths is, and otherwise
puts the parts of the second path behind those of the first (`isAbsolute_join`,
`parts_join`). So a path that is not absolute, has parts and does not lead back up leads to
something below whatever directory it is joined to (`isBelow_join`).
-/

namespace Specimen.Path

open Specimen.Text

/-- A path leads to something below a directory: it goes on from the directory by parts, none of
which leads back up. -/
def IsBelow (directory path : List Char) : Prop :=
  isAbsolute path = isAbsolute directory ∧
    ∃ further, further ≠ [] ∧ parent ∉ further ∧ parts path = parts directory ++ further

/-! ## Joining two paths -/

theorem isAbsolute_join (path next : List Char) :
    isAbsolute (join path next) = (isAbsolute path || isAbsolute next) := by
  unfold join
  by_cases hnext : isAbsolute next = true
  · rw [if_pos hnext, hnext, Bool.or_true]
  · rw [if_neg hnext, (Bool.not_eq_true _).mp hnext, Bool.or_false]
    cases path with
    | nil => exact (Bool.not_eq_true _).mp hnext
    | cons c r => split_ifs <;> rfl

theorem parts_append_cons (s t : List Char) : parts (s ++ '/' :: t) = parts s ++ parts t := by
  rw [parts, segments_append_cons, List.filter_append, parts, parts]

/-- **A path that is not absolute goes on** from the path that it is joined to. -/
theorem parts_join (path : List Char) {next : List Char} (h : isAbsolute next = false) :
    parts (join path next) = parts path ++ parts next := by
  unfold join
  rw [h, if_neg Bool.false_ne_true]
  split_ifs with hend
  · rcases Bool.or_eq_true_iff.mp hend with hnil | hslash
    · rw [List.isEmpty_iff.mp hnil]
      rfl
    · -- the slash at the end separates the two, and no part stands behind it
      obtain ⟨s, rfl⟩ := List.getLast?_eq_some_iff.mp (beq_iff_eq.mp hslash)
      have hnothing : parts [] = [] := rfl
      rw [List.append_assoc, List.singleton_append, parts_append_cons, parts_append_cons,
        hnothing, List.append_nil]
  · exact parts_append_cons path next

/-- A joined path ends in the path that is joined. -/
theorem suffix_join (path next : List Char) : next <:+ join path next := by
  unfold join
  split_ifs
  · exact List.suffix_refl next
  · exact List.suffix_append path next
  · exact (List.suffix_cons '/' next).trans (List.suffix_append path ('/' :: next))

/-- Joining writes no points. -/
theorem count_join_le (path next : List Char) :
    (join path next).count '.' ≤ path.count '.' + next.count '.' := by
  unfold join
  split_ifs
  · exact Nat.le_add_left _ _
  · rw [List.count_append]
  · rw [List.count_append, List.count_cons_of_ne (by decide)]

/-- A path with a single point does not lead back up. -/
theorem parent_not_mem_parts {path : List Char} (h : path.count '.' ≤ 1) :
    parent ∉ parts path := by
  intro hparent
  have hsub := sublist_of_mem_segments (List.mem_of_mem_filter hparent)
  have hcount : parent.count '.' = 2 := by decide
  have := hsub.count_le '.'
  omega

/-- A part that is more than points is a name. -/
theorem isName_of_mem {part : List Char} {c : Char} (hc : c ∈ part) (hpoint : c ≠ '.') :
    isEmptyPart part = false ∧ part ≠ parent := by
  have hdifferent : ∀ other : List Char, c ∉ other → part ≠ other := by
    rintro other hother rfl
    exact hother hc
  have hnil : part ≠ [] := hdifferent [] (by simp)
  have hsingle : part ≠ ['.'] := hdifferent ['.'] (by simp [hpoint])
  refine ⟨?_, hdifferent parent (by simp [parent, hpoint])⟩
  simp [isEmptyPart, hnil, hsingle]

/-- A path that is more than slashes and points has parts. -/
theorem parts_ne_nil {path : List Char} {c : Char} (hc : c ∈ path) (hslash : c ≠ '/')
    (hpoint : c ≠ '.') : parts path ≠ [] := by
  obtain ⟨part, hpart, hmem⟩ := exists_mem_segments hc hslash
  refine List.ne_nil_of_mem (a := part) (List.mem_filter.mpr ⟨hpart, ?_⟩)
  simp [(isName_of_mem hmem hpoint).1]

theorem isBelow_join (directory : List Char) {next : List Char}
    (hrelative : isAbsolute next = false) (hparts : parts next ≠ [])
    (hparent : parent ∉ parts next) :
    IsBelow directory (join directory next) := by
  refine ⟨?_, parts next, hparts, hparent, parts_join directory hrelative⟩
  rw [isAbsolute_join, hrelative, Bool.or_false]

/-! ## Joining pieces one by one -/

theorem isAbsolute_foldl_join (path : List Char) (pieces : List (List Char)) :
    isAbsolute (pieces.foldl join path) = (isAbsolute path || pieces.any isAbsolute) := by
  induction pieces generalizing path with
  | nil => simp
  | cons piece pieces ih => rw [List.foldl_cons, ih, isAbsolute_join, List.any_cons, Bool.or_assoc]

/-- Pieces that are not absolute go on from one another. -/
theorem parts_foldl_join (path : List Char) {pieces : List (List Char)}
    (h : ∀ piece ∈ pieces, isAbsolute piece = false) :
    parts (pieces.foldl join path) = parts path ++ pieces.flatMap parts := by
  induction pieces generalizing path with
  | nil => simp
  | cons piece pieces ih =>
      rw [List.forall_mem_cons] at h
      rw [List.foldl_cons, ih (join path piece) h.2, parts_join path h.1, List.flatMap_cons,
        List.append_assoc]

/-- Names that are joined one by one are the segments of the path. -/
theorem segments_foldl_join {path : List Char} {names : List (List Char)} (hpath : path ≠ [])
    (hend : path.getLast? ≠ some '/') (h : ∀ name ∈ names, name ≠ [] ∧ '/' ∉ name) :
    segments '/' (names.foldl join path) = segments '/' path ++ names := by
  induction names generalizing path with
  | nil => simp
  | cons name names ih =>
      rw [List.forall_mem_cons] at h
      obtain ⟨⟨hname, hslash⟩, hnames⟩ := h
      have hrelative : isAbsolute name ≠ true := by
        intro habsolute
        exact hslash (List.mem_of_mem_head? (by simpa [isAbsolute] using habsolute))
      have hjoin : join path name = path ++ '/' :: name := by
        simp [join, hrelative, hpath, hend]
      -- the last name has no slash, so the next one is joined by one as well
      have hlast : (path ++ '/' :: name).getLast? ≠ some '/' := by
        rw [List.getLast?_append_of_ne_nil _ (by simp), List.getLast?_cons_of_ne_nil hname]
        exact fun hmem => hslash (List.mem_of_mem_getLast? hmem)
      rw [List.foldl_cons, hjoin, ih (by simp) hlast hnames, segments_append_cons,
        segments_of_not_mem hslash, List.append_assoc]
      rfl

/-- Names that are joined to nothing are the segments of the path. -/
theorem segments_foldl_join_nil {names : List (List Char)} (hnames : names ≠ [])
    (h : ∀ name ∈ names, name ≠ [] ∧ '/' ∉ name) :
    segments '/' (names.foldl join []) = names := by
  obtain ⟨first, others, rfl⟩ := List.exists_cons_of_ne_nil hnames
  rw [List.forall_mem_cons] at h
  obtain ⟨⟨hfirst, hslash⟩, hothers⟩ := h
  have hjoin : join [] first = first := by simp [join]
  have hend : first.getLast? ≠ some '/' := fun hmem => hslash (List.mem_of_mem_getLast? hmem)
  rw [List.foldl_cons, hjoin, segments_foldl_join hfirst hend hothers, segments_of_not_mem hslash]
  rfl

/-- A path all of whose segments count starts nowhere of its own and has them as its parts. -/
theorem parts_of_segments {path : List Char}
    (h : ∀ part ∈ segments '/' path, isEmptyPart part = false) :
    isAbsolute path = false ∧ start path = [] ∧ parts path = segments '/' path := by
  have hrelative : isAbsolute path = false := by
    cases path with
    | nil => rfl
    | cons c r =>
        by_cases hc : c = '/'
        · -- the segment in front of the slash is empty
          rw [hc, segments_cons_self, List.forall_mem_cons] at h
          exact absurd h.1 (by decide)
        · simp [isAbsolute, hc]
  have hstart : start path = [] := by
    have hpoint : (segments '/' path).head? ≠ some ['.'] := by
      intro hhead
      exact absurd (h _ (List.mem_of_mem_head? hhead)) (by decide)
    rw [start, if_neg (by simp [hrelative]), if_neg hpoint]
  have hparts : parts path = segments '/' path := by
    refine List.filter_eq_self.mpr fun part hpart => ?_
    simp [h part hpart]
  exact ⟨hrelative, hstart, hparts⟩

/-- What is joined to a path that is not empty leaves its first segment alone. -/
theorem head?_segments_join {path next : List Char} (hpath : path ≠ [])
    (hrelative : isAbsolute next = false) :
    (segments '/' (join path next)).head? = (segments '/' path).head? := by
  have hhead : ∀ s t : List Char,
      (segments '/' (s ++ '/' :: t)).head? = (segments '/' s).head? := by
    intro s t
    rw [segments_append_cons, List.head?_append_of_ne_nil _ (segments_ne_nil s)]
  unfold join
  rw [hrelative, if_neg Bool.false_ne_true]
  split_ifs with hend
  · have hslash : path.getLast? = some '/' := by simpa [hpath] using hend
    obtain ⟨s, rfl⟩ := List.getLast?_eq_some_iff.mp hslash
    rw [List.append_assoc, List.singleton_append, hhead, hhead]
  · exact hhead path next

/-- Where a path starts stays, whatever is joined to it, except that nothing starts where what is
joined to it does. -/
theorem start_join {directory next : List Char} (hrelative : isAbsolute next = false)
    (h : directory ≠ [] ∨ start next = []) : start (join directory next) = start directory := by
  by_cases hdirectory : directory = []
  · have hnext : join directory next = next := by
      simp [join, hrelative, hdirectory]
    rw [hnext, h.resolve_left (not_not.mpr hdirectory), hdirectory]
    rfl
  · simp only [start, isAbsolute_join, hrelative, Bool.or_false,
      head?_segments_join hdirectory hrelative]

/-- A path that is not absolute goes on from a directory, wherever that starts. -/
theorem components_join {directory next : List Char} (hrelative : isAbsolute next = false)
    (h : directory ≠ [] ∨ start next = []) :
    components (join directory next) = components directory ++ parts next := by
  rw [components, components, start_join hrelative h, parts_join directory hrelative,
    List.append_assoc]

/-- Paths that are joined to a directory are compared by their parts. -/
theorem components_join_inj {directory next next' : List Char}
    (hrelative : isAbsolute next = false) (hrelative' : isAbsolute next' = false)
    (h : directory ≠ [] ∨ start next = []) (h' : directory ≠ [] ∨ start next' = []) :
    components (join directory next) = components (join directory next') ↔
      parts next = parts next' := by
  rw [components_join hrelative h, components_join hrelative' h', List.append_cancel_left_eq]

theorem count_foldl_join_le (path : List Char) {pieces : List (List Char)}
    (h : ∀ piece ∈ pieces, '.' ∉ piece) : (pieces.foldl join path).count '.' ≤ path.count '.' := by
  induction pieces generalizing path with
  | nil => exact le_rfl
  | cons piece pieces ih =>
      rw [List.forall_mem_cons] at h
      have hjoin := count_join_le path piece
      rw [List.count_eq_zero_of_not_mem h.1, Nat.add_zero] at hjoin
      exact (ih (join path piece) h.2).trans hjoin

end Specimen.Path
