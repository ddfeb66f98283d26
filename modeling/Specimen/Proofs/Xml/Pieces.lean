import Mathlib.Data.List.TakeWhile
import Specimen.Xml.Content

set_option autoImplicit false

/-! # Names in the pieces of an XML text

The names of tags and attributes are read in one place, `takeQName`, and what it gives is a local
name: not empty, made of name characters, without a colon (`isLocal_of_takeQName`). All readers
hand such names on, so whatever pieces a reading gives before it ends, in whatever way it ends,
the names in them are local names (`readDocument_yields`, `contentPieces_yields`).
-/

namespace Specimen.Xml

open Cursor

/-- A local name: name characters other than the colon, at least one. -/
def IsLocalName (name : List Char) : Prop :=
  name ≠ [] ∧ ':' ∉ name ∧ ∀ c ∈ name, isNameChar c = true

/-- The names of tags and attributes in a piece are local names. -/
def Markup.IsNamed : Markup → Prop
  | .tag name _ => IsLocalName name.name
  | .attribute name _ _ => IsLocalName name.name
  | _ => True

theorem isLocalName_of_checks {name : List Char} (hchars : ∀ c ∈ name, isNameChar c = true)
    (hcolon : ¬ name.contains ':' = true) (hpart : ¬ (!isNamePart name) = true) :
    IsLocalName name := by
  refine ⟨?_, by simpa using hcolon, hchars⟩
  rintro rfl
  exact hpart rfl

/-- **A name that is read is a local name** behind its qualifier. -/
theorem isLocal_of_takeQName {s : Cursor} {q : QName} {t : Behind s}
    (h : s.takeQName = .ok (q, t)) : IsLocalName q.name := by
  have hrun : ∀ c ∈ (s.takeRun isNameChar).1, isNameChar c = true :=
    fun c hc => List.mem_takeWhile_imp hc
  unfold takeQName at h
  -- without a colon the name is what was read, with one it is what stands behind the colon
  cases hbehind : (s.takeRun isNameChar).1.dropWhile (· != ':') with
  | nil =>
      simp only [hbehind] at h
      split_ifs at h with hcolon hqualifier hpart hnil
      · cases h
      · cases h
      · cases h
      · cases h
      · obtain ⟨rfl, -⟩ := Prod.mk.inj (Except.ok.inj h)
        exact isLocalName_of_checks (fun c hc => hrun c (List.takeWhile_subset _ hc)) hcolon hpart
  | cons colon inner =>
      simp only [hbehind] at h
      have hinner : ∀ c ∈ inner, c ∈ (s.takeRun isNameChar).1 := by
        intro c hc
        refine List.dropWhile_subset (· != ':') ?_
        rw [hbehind]
        exact List.mem_cons_of_mem _ hc
      split_ifs at h with hcolon hqualifier hpart hnil
      · cases h
      · cases h
      · cases h
      · cases h
      · obtain ⟨rfl, -⟩ := Prod.mk.inj (Except.ok.inj h)
        exact isLocalName_of_checks (fun c hc => hrun c (hinner c hc)) hcolon hpart

/-! ## Readings -/

/-- The names in the pieces of a reading are local names. -/
def Scan.Yields {α : Type} (s : Scan α) : Prop := ∀ m ∈ s.pieces, m.IsNamed

namespace Scan

variable {α β : Type}

theorem yields_pure (a : α) : (pure a : Scan α).Yields := fun _ hm => by cases hm

theorem yields_lift (result : Except Fault α) : (liftM result : Scan α).Yields :=
  fun _ hm => by cases hm

/-- One reading after the other gives the pieces of both. -/
theorem Yields.bind {s : Scan α} (hs : s.Yields) {next : α → Scan β}
    (hnext : ∀ a, s.result = .ok a → (next a).Yields) : (s >>= next).Yields := by
  show (s.andThen next).Yields
  unfold andThen
  cases hresult : s.result with
  | error f => exact hs
  | ok a =>
      intro m hm
      rcases List.mem_append.mp hm with hm | hm
      · exact hs m hm
      · exact hnext a hresult m hm

theorem yields_piece_bind (m : Markup) (hm : m.IsNamed) {next : Unit → Scan β}
    (hnext : ∀ u, (next u).Yields) : (piece m >>= next).Yields := by
  refine Yields.bind ?_ fun u _ => hnext u
  intro m' hm'
  rwa [List.mem_singleton.mp hm']

/-- A result that is lifted gives no pieces. -/
theorem yields_lift_bind {result : Except Fault α} {next : α → Scan β}
    (hnext : ∀ a, result = .ok a → (next a).Yields) : (liftM result >>= next : Scan β).Yields :=
  (yields_lift result).bind hnext

end Scan

open Scan

theorem readComment_yields (s : Cursor) (h : s.rest ≠ []) : (readComment s h).Yields := by
  refine yields_lift_bind fun ⟨text, t⟩ _ => ?_
  dsimp only
  split_ifs
  · exact yields_lift _
  · exact yields_piece_bind (.comment text) trivial fun _ => yields_pure _

theorem readInstruction_yields (s : Cursor) (h : s.rest ≠ []) : (readInstruction s h).Yields := by
  unfold readInstruction
  split_ifs
  · exact yields_lift _
  · refine yields_lift_bind fun ⟨target, t⟩ _ => yields_lift_bind fun ⟨text, v⟩ _ => ?_
    dsimp only
    exact yields_piece_bind (.instruction target text) trivial fun _ => yields_pure _

theorem readVerbatim_yields (s : Cursor) (h : s.rest ≠ []) : (readVerbatim s h).Yields := by
  refine yields_lift_bind fun ⟨text, t⟩ _ => ?_
  dsimp only
  exact yields_piece_bind (.verbatim text) trivial fun _ => yields_pure _

/-! ## The prolog -/

theorem readMisc_yields (s : Cursor) : (readMisc s).Yields := by
  rw [readMisc]
  dsimp only
  split_ifs with hrest hcomment hinstruction
  · exact yields_pure _
  · refine (readComment_yields _ hrest).bind fun u _ => ?_
    have : u.1.rest.length < s.rest.length := (s.skipSpaces.behind u).2
    exact (readMisc_yields u.1).bind fun _ _ => yields_pure _
  · refine (readInstruction_yields _ hrest).bind fun u _ => ?_
    have : u.1.rest.length < s.rest.length := (s.skipSpaces.behind u).2
    exact (readMisc_yields u.1).bind fun _ _ => yields_pure _
  · exact yields_pure _
termination_by s.rest.length

theorem readEntity_yields (s : Cursor) (h : s.rest ≠ []) : (readEntity s h).Yields := by
  refine yields_lift_bind fun u _ => yields_lift_bind fun ⟨isParameter, v⟩ _ =>
    yields_lift_bind fun ⟨name, w⟩ _ => yields_lift_bind fun x _ =>
      yields_lift_bind fun ⟨definition, y⟩ _ => ?_
  dsimp only
  cases definition with
  | none => exact yields_lift_bind fun _ _ => yields_pure _
  | some text =>
      refine yields_piece_bind (.entity name text) trivial fun _ => ?_
      exact yields_lift_bind fun _ _ => yields_pure _

theorem readSubset_yields (start : Nat) (s : Cursor) : (readSubset start s).Yields := by
  rw [readSubset]
  dsimp only
  split_ifs with hend hrest hentity hcomment hinstruction hclosing hskipped
  · exact yields_pure _
  · exact yields_lift _
  · refine (readEntity_yields _ hrest).bind fun u _ => ?_
    have : u.1.rest.length < s.rest.length := (s.skipSpaces.behind u).2
    exact (readSubset_yields start u.1).bind fun _ _ => yields_pure _
  · refine (readComment_yields _ hrest).bind fun u _ => ?_
    have : u.1.rest.length < s.rest.length := (s.skipSpaces.behind u).2
    exact (readSubset_yields start u.1).bind fun _ _ => yields_pure _
  · refine (readInstruction_yields _ hrest).bind fun u _ => ?_
    have : u.1.rest.length < s.rest.length := (s.skipSpaces.behind u).2
    exact (readSubset_yields start u.1).bind fun _ _ => yields_pure _
  · exact yields_lift_bind fun _ _ => yields_pure _
  · split
    · exact fun _ hm => by cases hm
    · next u _ =>
        have : u.1.rest.length < s.rest.length := (s.skipSpaces.behind u).2
        exact (readSubset_yields start u.1).bind fun _ _ => yields_pure _
  · exact yields_lift _
termination_by s.rest.length

theorem readDocumentType_yields (s : Cursor) : (readDocumentType s).Yields := by
  refine yields_lift_bind fun u _ => yields_lift_bind fun ⟨_, v⟩ _ =>
    yields_lift_bind fun ⟨_, w⟩ _ => ?_
  dsimp only
  split
  · exact yields_lift _
  · split_ifs
    · exact yields_pure _
    · exact (readSubset_yields _ _).bind fun _ _ => yields_pure _
    · exact yields_lift _

/-! ## Elements -/

theorem readAttribute_yields (s : Cursor) : (readAttribute s).Yields := by
  refine yields_lift_bind fun ⟨name, t⟩ hname => yields_lift_bind fun u _ =>
    yields_lift_bind fun ⟨value, v⟩ _ => ?_
  dsimp only
  refine yields_piece_bind (.attribute name value s.index) ?_ fun _ => yields_pure _
  exact isLocal_of_takeQName hname

theorem readTagRest_yields (s : Cursor) : (readTagRest s).Yields := by
  rw [readTagRest]
  split_ifs
  · exact yields_pure _
  · dsimp only
    split
    · exact yields_lift _
    · split_ifs
      · refine yields_lift_bind fun _ _ => ?_
        exact yields_piece_bind (.tagEnd true) trivial fun _ => yields_pure _
      · exact yields_piece_bind (.tagEnd false) trivial fun _ => yields_pure _
      · exact yields_lift _
      · refine (readAttribute_yields _).bind fun u _ => ?_
        have : u.1.rest.length < s.rest.length := (s.skipSpaces.behind u).2
        exact (readTagRest_yields u.1).bind fun _ _ => yields_pure _
termination_by s.rest.length

theorem readTag_yields (s : Cursor) (h : s.rest ≠ []) : (readTag s h).Yields := by
  refine yields_lift_bind fun ⟨name, t⟩ hname => ?_
  dsimp only
  exact yields_piece_bind (.tag name s.index) (isLocal_of_takeQName hname) fun _ =>
    (readTagRest_yields _).bind fun _ _ => yields_pure _

theorem readCloseTag_yields (s : Cursor) (h : s.rest ≠ []) : (readCloseTag s h).Yields := by
  refine yields_lift_bind fun ⟨name, u⟩ _ => yields_lift_bind fun v _ => ?_
  exact yields_piece_bind (.closeTag name s.index) trivial fun _ => yields_pure _

theorem readText_yields (c : Char) (r : List Char) (index : Nat) :
    (readText c r index).Yields := by
  unfold readText
  split_ifs
  · exact yields_lift _
  · refine yields_lift_bind fun ⟨text, t⟩ _ => ?_
    dsimp only
    split_ifs
    · exact yields_lift _
    · exact yields_piece_bind (.text ⟨index, c :: text⟩) trivial fun _ => yields_pure _

theorem readContent_yields (level : Nat) (s : Cursor) : (readContent level s).Yields := by
  -- each construct gives pieces of its own, and the content behind it is shorter
  rw [readContent]
  split
  · exact yields_pure _
  · next c r hrest =>
      dsimp only
      split_ifs
      · exact yields_lift _
      · refine (readComment_yields s _).bind fun t _ => ?_
        have := t.2
        exact (readContent_yields level t.1).bind fun _ _ => yields_pure _
      · refine (readVerbatim_yields s _).bind fun t _ => ?_
        have := t.2
        exact (readContent_yields level t.1).bind fun _ _ => yields_pure _
      · exact yields_lift _
      · refine (readInstruction_yields s _).bind fun t _ => ?_
        have := t.2
        exact (readContent_yields level t.1).bind fun _ _ => yields_pure _
      · exact (readCloseTag_yields s _).bind fun _ _ => yields_pure _
      · refine (readCloseTag_yields s _).bind fun t _ => ?_
        have := t.2
        exact (readContent_yields (level - 1) t.1).bind fun _ _ => yields_pure _
      · refine (readTag_yields s _).bind ?_
        rintro ⟨hasContent, t⟩ -
        have := t.2
        exact (readContent_yields _ t.1).bind fun _ _ => yields_pure _
      · refine (readText_yields c r s.index).bind fun t _ => ?_
        have : t.1.rest.length < s.rest.length := by simpa [hrest] using t.2
        exact (readContent_yields level t.1).bind fun _ _ => yields_pure _
termination_by s.rest.length

/-- **The names in a stretch of content** are local names. -/
theorem contentPieces_yields (s : Cursor) : (contentPieces s).Yields :=
  (readContent_yields 0 s).bind fun _ _ => yields_pure _

theorem readRoot_yields (s : Cursor) : (readRoot s).Yields := by
  unfold readRoot
  split
  · refine (readTag_yields s _).bind fun ⟨hasContent, t⟩ _ => ?_
    dsimp only
    split_ifs
    · exact (readContent_yields 0 t.1).bind fun _ _ => yields_pure _
    · exact yields_pure _
  · exact yields_pure _

theorem readOptionalType_yields (s : Cursor) : (readOptionalType s).Yields := by
  unfold readOptionalType
  split_ifs
  · exact (readDocumentType_yields s).bind fun t _ =>
      (readMisc_yields t.1).bind fun _ _ => yields_pure _
  · exact yields_pure _

/-- **The names in a document** are local names. -/
theorem readDocument_yields (text : List Char) : (readDocument text).Yields := by
  refine yields_lift_bind fun t _ => ?_
  refine (readMisc_yields t.1).bind fun u _ => (readOptionalType_yields u.1).bind fun v _ =>
    (readRoot_yields v.1).bind fun w _ => (readMisc_yields w.1).bind fun x _ => ?_
  by_cases hend : x.1.rest.isEmpty = true
  · rw [if_pos hend]
    exact yields_pure _
  · rw [if_neg hend]
    exact yields_lift _

end Specimen.Xml
