import Mathlib.Data.List.DropRight
import Specimen.Document.Read
import Specimen.Proofs.Json.Literal
import Specimen.Proofs.Success

set_option autoImplicit false

/-! # Detection agrees with the readers

The format of a text is guessed from one character, the first one that is no white space, before
any reader has seen it. `detect_of_read` says when the guess is right: for every JSON document, and
for every XML document that does not start with a byte order mark, which the XML reader passes over
and which is no white space. No text is a document in both formats.

* `Json.exists_isOpening_of_read` is the reason on one side: the reader looks at the first
  character behind white space as well, and only some characters open a value. None of them is
  blank, `<` or a byte order mark.
* `Xml.opensMarkup_of_read` is the reason on the other side. All parts of a document that may stand
  in front of the root element open with `<`, and so does the element; a reader that finds another
  character takes no piece, so there is no root.
-/

namespace Specimen.Json

open Specimen.Text

/-! ## The first character of a JSON document -/

/-- Values open with characters that are neither white space nor open markup. -/
theorem isBlank_of_isOpening {c : Char} (h : isOpening c = true) :
    isBlank c = false ∧ c ≠ '<' ∧ c ≠ Xml.byteOrderMark := by
  simp only [isOpening, Bool.or_eq_true, beq_iff_eq] at h
  rcases h with ((((((rfl | rfl) | rfl) | rfl) | rfl) | rfl) | rfl) | hdigit
  case inr =>
    refine ⟨not_isBlank_of_isDigit hdigit, ?_, ?_⟩
    · rintro rfl
      cases hdigit
    · rintro rfl
      cases hdigit
  all_goals decide

theorem exists_isOpening_of_read {text : String} {v : Value} (h : read text = .ok v) :
    ∃ c r, trimStart text.toList = c :: r ∧ isOpening c = true := by
  obtain ⟨rest, hvalue, _⟩ := exists_of_finish_eq_ok h
  obtain ⟨result, hresult, _⟩ := exists_of_map_eq_ok hvalue
  obtain ⟨c, r, hskip, hopening⟩ := exists_isOpening_of_readValue hresult
  obtain ⟨space, htext, hspace⟩ := skipSpace_eq text.toList
  refine ⟨c, r, ?_, hopening⟩
  rw [htext, hskip]
  refine dropWhile_isBlank_append (fun d hd => isBlank_of_isSpace (hspace d hd)) (fun d hd => ?_)
  obtain rfl : c = d := by simpa using hd
  exact (isBlank_of_isOpening hopening).1

end Specimen.Json

namespace Specimen.Xml

open Cursor Specimen.Text

/-! ## The first character of an XML document -/

theorem isBlank_of_isSpace {c : Char} (h : isSpace c = true) : isBlank c = true := by
  simp only [isSpace, Bool.or_eq_true, beq_iff_eq] at h
  rcases h with ((rfl | rfl) | rfl) | rfl <;> rfl

/-- The first character behind white space is the one that opens markup. -/
def OpensMarkup (s : List Char) : Prop := (s.dropWhile isSpace).head? = some '<'

theorem OpensMarkup.head?_trimStart {s : List Char} (h : OpensMarkup s) :
    (trimStart s).head? = some '<' := by
  -- what the reader passes over is blank, and `<` is not
  have hspace : ∀ c ∈ s.takeWhile isSpace, isBlank c = true :=
    fun c hc => isBlank_of_isSpace (List.mem_takeWhile_imp hc)
  have htrim : trimStart s = s.dropWhile isSpace := by
    conv_lhs => rw [← List.takeWhile_append_dropWhile (p := isSpace) (l := s)]
    refine Json.dropWhile_isBlank_append hspace (fun c hc => ?_)
    obtain rfl : '<' = c := by simpa [OpensMarkup] using h.symm.trans hc
    rfl
  rw [htrim]
  exact h

/-- What opens with `<` is not in front of another character. -/
theorem startsWith_eq_false {s : Cursor} {word : String} (hword : word.toList.head? = some '<')
    (hs : s.rest.head? ≠ some '<') : s.startsWith word = false := by
  obtain ⟨w, hw⟩ : ∃ w, word.toList = '<' :: w := List.head?_eq_some_iff.mp hword
  unfold startsWith
  rw [hw]
  cases hrest : s.rest with
  | nil => rfl
  | cons c r =>
      have hc : '<' ≠ c := by
        rintro rfl
        exact hs (by rw [hrest]; rfl)
      simp [List.isPrefixOf, hc]

theorem rest_skipSpaces (s : Cursor) : s.skipSpaces.1.rest = s.rest.dropWhile isSpace := by
  have hsplit := List.takeWhile_append_dropWhile (p := isSpace) (l := s.rest)
  calc s.skipSpaces.1.rest
    _ = s.rest.drop (s.rest.takeWhile isSpace).length := rfl
    _ = (s.rest.takeWhile isSpace ++ s.rest.dropWhile isSpace).drop
          (s.rest.takeWhile isSpace).length := by rw [hsplit]
    _ = s.rest.dropWhile isSpace := List.drop_left

/-- Where no markup opens, there is no comment and no instruction. -/
theorem readMisc_of_not_opensMarkup {s : Cursor} (h : ¬ OpensMarkup s.rest) :
    readMisc s = pure s.skipSpaces := by
  have hhead : s.skipSpaces.1.rest.head? ≠ some '<' := by
    rw [rest_skipSpaces]
    exact h
  rw [readMisc]
  by_cases hend : s.skipSpaces.1.rest = []
  · rw [dif_pos hend]
  · rw [dif_neg hend, startsWith_eq_false (by decide) hhead, startsWith_eq_false (by decide) hhead]
    rfl

theorem readOptionalType_of_head? {s : Cursor} (h : s.rest.head? ≠ some '<') :
    readOptionalType s = pure s.here := by
  unfold readOptionalType
  rw [startsWith_eq_false (by decide) h]
  rfl

theorem readRoot_of_head? {s : Cursor} (h : s.rest.head? ≠ some '<') :
    readRoot s = pure s.here := by
  unfold readRoot
  split
  · next hrest => simp [hrest] at h
  · rfl

theorem skipOptionalDeclaration_of_head? {s : Cursor} (h : s.rest.head? ≠ some '<') :
    skipOptionalDeclaration s = .ok s.here := by
  unfold skipOptionalDeclaration
  rw [startsWith_eq_false (by decide) h]
  rfl

/-- The text of a document behind the byte order mark, if there is one in front. -/
def body (text : List Char) : List Char :=
  if text.head? = some byteOrderMark then text.tail else text

theorem head?_ne_of_not_opensMarkup {s : List Char} (h : ¬ OpensMarkup s) :
    s.head? ≠ some '<' := by
  intro hhead
  obtain ⟨r, rfl⟩ := List.head?_eq_some_iff.mp hhead
  exact h rfl

/-- A text in which no markup opens has no pieces. -/
theorem pieces_readDocument {text : List Char} (h : ¬ OpensMarkup (body text)) :
    (readDocument text).pieces = [] := by
  unfold readDocument
  generalize hs :
    (if text.head? = some byteOrderMark then ⟨1, text.tail⟩ else ⟨0, text⟩ : Cursor) = s
  have hrest : s.rest = body text := by
    rw [← hs, body]
    split_ifs <;> rfl
  rw [← hrest] at h
  -- white space is passed over once, and nothing of a document starts behind it
  have hhead : s.rest.head? ≠ some '<' := head?_ne_of_not_opensMarkup h
  have hbehind : s.skipSpaces.1.rest.head? ≠ some '<' := by
    rw [rest_skipSpaces]
    exact h
  have hagain : ¬ OpensMarkup s.skipSpaces.1.rest := by
    unfold OpensMarkup
    rwa [rest_skipSpaces, List.dropWhile_idempotent]
  dsimp only
  rw [skipOptionalDeclaration_of_head? hhead]
  show (readMisc s >>= _ : Scan Unit).pieces = []
  rw [readMisc_of_not_opensMarkup h]
  show (readOptionalType s.skipSpaces.1 >>= _ : Scan Unit).pieces = []
  rw [readOptionalType_of_head? hbehind]
  show (readRoot s.skipSpaces.1 >>= _ : Scan Unit).pieces = []
  rw [readRoot_of_head? hbehind]
  show (readMisc s.skipSpaces.1 >>= _ : Scan Unit).pieces = []
  rw [readMisc_of_not_opensMarkup hagain]
  show (if _ then pure () else _ : Scan Unit).pieces = []
  split_ifs <;> rfl

/-- Without pieces there is no root element. -/
theorem read_ne_ok_of_pieces {text : String} (h : (readDocument text.toList).pieces = [])
    (n : Node) :
    read text ≠ .ok n := by
  intro hread
  unfold read at hread
  simp only [Assembly.addPieces, h, List.foldlM_nil] at hread
  cases hresult : (readDocument text.toList).result with
  | error f => simp [hresult, Except.map, Except.bind, pure, Except.pure] at hread
  | ok u =>
      simp [hresult, Except.map, Except.bind, pure, Except.pure, Assembly.root, Assembly.start]
        at hread

/-- **In an XML document markup opens** behind white space, a byte order mark in front aside. -/
theorem opensMarkup_of_read {text : String} {n : Node} (h : read text = .ok n) :
    OpensMarkup (body text.toList) := by
  by_contra hnot
  exact read_ne_ok_of_pieces (pieces_readDocument hnot) n h

end Specimen.Xml

namespace Specimen.Document

open Specimen.Text

/-! ## Detection -/

/-- A text without a byte order mark in front is read as what it is detected to be, and with one it
is detected to be JSON. -/
theorem detect_of_readJson {text : String} {v : Json.Value} (h : Json.read text = .ok v) :
    Format.detect text = .json ∧ text.toList.head? ≠ some Xml.byteOrderMark := by
  obtain ⟨c, r, htrim, hopening⟩ := Json.exists_isOpening_of_read h
  obtain ⟨hblank, hmarkup, hmark⟩ := Json.isBlank_of_isOpening hopening
  constructor
  · have hhead : (trimStart text.toList).head? ≠ some '<' := by
      simp [htrim, hmarkup]
    exact if_neg hhead
  · -- a byte order mark is not blank, so it would be the first character
    intro hbom
    obtain ⟨s, hs⟩ := List.head?_eq_some_iff.mp hbom
    have hfirst : trimStart text.toList = Xml.byteOrderMark :: s := by
      rw [hs]
      exact List.dropWhile_cons_of_neg (by decide)
    rw [htrim] at hfirst
    exact hmark (List.cons.inj hfirst).1

theorem detect_of_readXml {text : String} {n : Xml.Node} (h : Xml.read text = .ok n) :
    Format.detect text = .xml ↔ text.toList.head? ≠ some Xml.byteOrderMark := by
  have hopens := Xml.opensMarkup_of_read h
  unfold Xml.body at hopens
  by_cases hbom : text.toList.head? = some Xml.byteOrderMark
  · obtain ⟨s, hs⟩ := List.head?_eq_some_iff.mp hbom
    have hhead : (trimStart text.toList).head? ≠ some '<' := by
      rw [hs, trimStart, List.dropWhile_cons_of_neg (by decide)]
      simp [Xml.byteOrderMark]
    have hdetect : Format.detect text = .json := if_neg hhead
    simp [hdetect, hbom]
  · rw [if_neg hbom] at hopens
    have hdetect : Format.detect text = .xml := if_pos hopens.head?_trimStart
    simp [hdetect, hbom]

/-- **No text is a document in both formats.** -/
theorem readXml_ne_ok_of_readJson {text : String} {v : Json.Value} (h : Json.read text = .ok v)
    (n : Xml.Node) : Xml.read text ≠ .ok n := by
  intro hxml
  obtain ⟨hdetect, hbom⟩ := detect_of_readJson h
  have hdetect' : Format.detect text = .xml := (detect_of_readXml hxml).mpr hbom
  exact absurd (hdetect.symm.trans hdetect') (by decide)

theorem exists_of_read_json {text : String} {element : Element}
    (h : Document.read text .json = .ok element) : ∃ v, Json.read text = .ok v := by
  obtain ⟨v, hv, _⟩ := exists_of_map_eq_ok h
  exact ⟨v, exists_of_mapError_eq_ok hv⟩

theorem exists_of_read_xml {text : String} {element : Element}
    (h : Document.read text .xml = .ok element) : ∃ n, Xml.read text = .ok n := by
  obtain ⟨n, hn, _⟩ := exists_of_map_eq_ok (exists_of_mapError_eq_ok h)
  exact ⟨n, hn⟩

/-- **Detection agrees with the readers**, a byte order mark aside. If a text is a document in some
format, then

* that format is detected exactly if no byte order mark stands in front of the text;
* for a JSON document none does, so JSON is detected;
* the text is no document in another format. -/
theorem detect_of_read {text : String} {format : Format} {element : Element}
    (h : Document.read text format = .ok element) :
    (Format.detect text = format ↔ text.toList.head? ≠ some Xml.byteOrderMark) ∧
    (format = .json → Format.detect text = .json) ∧
    ∀ format' element', Document.read text format' = .ok element' → format' = format := by
  cases format with
  | json =>
      obtain ⟨v, hv⟩ := exists_of_read_json h
      obtain ⟨hdetect, hbom⟩ := detect_of_readJson hv
      refine ⟨iff_of_true hdetect hbom, fun _ => hdetect, fun format' element' h' => ?_⟩
      cases format' with
      | json => rfl
      | xml =>
          obtain ⟨n, hn⟩ := exists_of_read_xml h'
          exact absurd hn (readXml_ne_ok_of_readJson hv n)
  | xml =>
      obtain ⟨n, hn⟩ := exists_of_read_xml h
      refine ⟨detect_of_readXml hn, nofun, fun format' element' h' => ?_⟩
      cases format' with
      | xml => rfl
      | json =>
          obtain ⟨v, hv⟩ := exists_of_read_json h'
          exact absurd hn (readXml_ne_ok_of_readJson hv n)

/-- An empty element behind a space. -/
def spacedElement : String := " <a/>"

theorem read_spacedElement : Document.read spacedElement .xml = .ok (.scalar (.token "")) := by
  with_unfolding_all rfl

theorem detect_of_read_spacedElement :
    Document.read spacedElement .xml = .ok (.scalar (.token "")) ∧
      Format.detect spacedElement = .xml ∧
      ∀ element, Document.read spacedElement .json ≠ .ok element := by
  obtain ⟨hdetect, _, honly⟩ := detect_of_read read_spacedElement
  refine ⟨read_spacedElement, hdetect.mpr (by decide), fun element h => ?_⟩
  cases honly .json element h

/-- An empty element behind a byte order mark. -/
def markedElement : String := "\ufeff<a/>"

/-- The XML reader passes over a byte order mark, and detection does not: such a document is taken
for JSON, which it is not. -/
theorem detect_markedElement :
    Document.read markedElement .xml = .ok (.scalar (.token "")) ∧
      Format.detect markedElement = .json ∧
      ∀ element, Document.read markedElement (Format.detect markedElement) ≠ .ok element := by
  have hdetect : Format.detect markedElement = .json := by decide
  refine ⟨by with_unfolding_all rfl, hdetect, fun element h => ?_⟩
  rw [hdetect] at h
  obtain ⟨v, hv⟩ := exists_of_read_json h
  exact (detect_of_readJson hv).2 (by decide)

end Specimen.Document
