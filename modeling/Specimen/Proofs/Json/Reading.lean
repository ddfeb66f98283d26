import Mathlib.Tactic.SplitIfs
import Specimen.Json.Reader
import Specimen.Proofs.Success

set_option autoImplicit false

/-! # Reading JSON texts

Reading a text by its characters: the white space around a document, the character with which a
value opens, and strings.
-/

namespace Specimen.Json

theorem read_of_toList {text : String} {cs : List Char} (h : text.toList = cs) :
    read text = finish cs ((readValue depthLimit cs).map fun (v, r) => (v, r.1)) := by
  subst h
  rfl

/-- What is passed over is white space. -/
theorem skipSpace_eq (s : List Char) :
    ∃ space, s = space ++ (skipSpace s).1 ∧ ∀ c ∈ space, isSpace c = true := by
  induction s with
  | nil => exact ⟨[], rfl, by simp⟩
  | cons c r ih =>
      unfold skipSpace
      split
      · next hc =>
          obtain ⟨space, hr, hspace⟩ := ih
          exact ⟨c :: space, congrArg (c :: ·) hr, List.forall_mem_cons.mpr ⟨hc, hspace⟩⟩
      · exact ⟨[], rfl, by simp⟩

/-- White space in front of a value is passed over. -/
theorem readValue_cons_of_isSpace {c : Char} (hc : isSpace c = true) (depth : Nat)
    (s : List Char) :
    (readValue depth (c :: s)).map (fun p => (p.1, p.2.1))
      = (readValue depth s).map fun p => (p.1, p.2.1) := by
  have hskip : skipSpace (c :: s) = ⟨(skipSpace s).1, Remainder.le_cons (skipSpace s).2⟩ := by
    rw [skipSpace, if_pos hc]
  rw [readValue, readValue, hskip]
  rcases skipSpace s with ⟨t, ht⟩
  -- from here on the two readers differ only in what they know about lengths
  cases t with
  | nil => rfl
  | cons d r =>
      dsimp only
      split_ifs
      · rfl
      · rcases firstItem r with f | ⟨⟨⟩ | ⟨⟩, t, h⟩
        · rfl
        · rfl
        · dsimp only
          cases readItems (depth - 1) 0 t <;> rfl
      · rfl
      · rcases firstKey r with f | ⟨⟨⟩ | ⟨⟩, t, h⟩
        · rfl
        · rfl
        · dsimp only
          cases readMembers (depth - 1) t <;> rfl
      · cases readScalar d r <;> rfl

theorem readValue_append_of_isSpace {space : List Char} (hspace : ∀ c ∈ space, isSpace c = true)
    (depth : Nat) (s : List Char) :
    (readValue depth (space ++ s)).map (fun p => (p.1, p.2.1))
      = (readValue depth s).map fun p => (p.1, p.2.1) := by
  induction space with
  | nil => rfl
  | cons c space ih =>
      rw [List.forall_mem_cons] at hspace
      exact (readValue_cons_of_isSpace hspace.1 depth (space ++ s)).trans (ih hspace.2)

/-- What follows the value of a document is white space. -/
theorem exists_of_finish_eq_ok {α : Type} {text : List Char}
    {result : Except Fault (α × List Char)} {v : α} (h : finish text result = .ok v) :
    ∃ rest, result = .ok (v, rest) ∧ ∀ c ∈ rest, isSpace c = true := by
  unfold finish at h
  split at h
  · cases h
  · next v' rest =>
      split at h
      · next hempty =>
          cases h
          obtain ⟨space, hrest, hspace⟩ := skipSpace_eq rest
          rw [hempty, List.append_nil] at hrest
          exact ⟨rest, rfl, hrest ▸ hspace⟩
      · cases h

/-! ## The first character of a value -/

/-- A character with which a value may open. -/
def isOpening (c : Char) : Bool :=
  c == '[' || c == '\x7b' || c == 'n' || c == 't' || c == 'f' || c == '"' || c == '-' || c.isDigit

/-- Values do not open with white space. -/
theorem not_isSpace_of_isOpening {c : Char} (h : isOpening c = true) : isSpace c = false := by
  refine Bool.eq_false_iff.mpr fun hspace => ?_
  simp only [isSpace, Bool.or_eq_true, beq_iff_eq] at hspace
  rcases hspace with ((rfl | rfl) | rfl) | rfl <;> cases h

theorem isOpening_of_readScalar {c : Char} {r : List Char} {result : Value × NotLonger r}
    (h : readScalar c r = .ok result) : isOpening c = true := by
  unfold readScalar at h
  split at h
  case h_6 =>
    split_ifs at h with hdigit
    simp [isOpening, hdigit]
  all_goals rfl

/-- **A value opens with one of a few characters**, behind white space. -/
theorem exists_isOpening_of_readValue {depth : Nat} {s : List Char} {result : Value × Shorter s}
    (h : readValue depth s = .ok result) :
    ∃ c r, (skipSpace s).1 = c :: r ∧ isOpening c = true := by
  rw [readValue] at h
  split at h
  · cases h
  · next c r _ hskip =>
      refine ⟨c, r, congrArg Subtype.val hskip, ?_⟩
      dsimp only at h
      by_cases hlist : c = '['
      · simp [isOpening, hlist]
      · by_cases hobject : c = '\x7b'
        · simp [isOpening, hobject]
        · rw [if_neg hlist, if_neg hobject] at h
          obtain ⟨_, hscalar, _⟩ := exists_of_map_eq_ok h
          exact isOpening_of_readScalar hscalar

/-! ## Strings -/

/-- A character that needs no escape is read as it is. -/
theorem readString_cons {c : Char} {t cs rest : List Char} {ht : rest.length < t.length}
    (hc : c ≠ '"' ∧ c ≠ '\\' ∧ 0x20 ≤ c.toNat) (hread : readString t = .ok (cs, ⟨rest, ht⟩)) :
    readString (c :: t) = .ok (c :: cs, ⟨rest, Nat.lt_succ_of_lt ht⟩) := by
  obtain ⟨hquote, hbackslash, hcontrol⟩ := hc
  rw [readString, if_neg (Nat.not_lt.mpr hcontrol), hread]
  · exact hquote
  · exact hbackslash

/-- A string ends at its closing quote. -/
theorem readString_quote (rest : List Char) :
    readString ('"' :: rest) = .ok ([], ⟨rest, Nat.lt_succ_self _⟩) := by
  rw [readString]

/-- A string without escapes is read as it is written. -/
theorem readString_append {cs : List Char}
    (hcs : ∀ c ∈ cs, c ≠ '"' ∧ c ≠ '\\' ∧ 0x20 ≤ c.toNat) (rest : List Char) :
    ∃ h, readString (cs ++ '"' :: rest) = .ok (cs, ⟨rest, h⟩) := by
  induction cs with
  | nil => exact ⟨_, readString_quote rest⟩
  | cons c cs ih =>
      obtain ⟨hc, hcs⟩ := List.forall_mem_cons.mp hcs
      obtain ⟨_, hread⟩ := ih hcs
      exact ⟨_, readString_cons hc hread⟩

/-- The document that is an object with one member, itself an object without members. -/
theorem read_emptyMember {text : String} {name : List Char}
    (htext : text.toList = '\x7b' :: '"' :: (name ++ ['"', ':', '\x7b', '\x7d', '\x7d']))
    (hname : ∀ c ∈ name, c ≠ '"' ∧ c ≠ '\\' ∧ 0x20 ≤ c.toNat) :
    read text = .ok (.object [(String.ofList name, .object [])]) := by
  obtain ⟨h, hread⟩ := readString_append hname [':', '\x7b', '\x7d', '\x7d']
  rw [read_of_toList htext]
  simp [readValue, readMembers, hread, firstKey, skipSpace, isSpace, readColon, readSeparator,
    finish, depthLimit, Value.ofMembers, insertMember, Except.map]

end Specimen.Json
