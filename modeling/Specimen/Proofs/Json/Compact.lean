import Specimen.Proofs.Json.Floats
import Specimen.Proofs.Json.Writing

set_option autoImplicit false

/-! # Reading values that are written on one line

What is read from the text of a document's value on one line is the value with each of its numbers
read back (`toOption_read_compact`). Nothing else changes: not the names and the order of members,
no string and no integer.

The induction is on the value (`Value.IsDocument.isReread`), with any text behind that of the value
that no number goes on with. For arrays and objects one element or member is read at a time
(`parsed_readItems_cons`, `parsed_readMembers_cons`). Either it is read, and the text behind it is
what was written behind it, or its number cannot be read and the array or object cannot either.
-/

namespace Specimen.Json

open Specimen.Number

/-! ## Parts of a text -/

section Parts

variable {α : Type} {s t : List Char}

/-- Whether something is read or not, and what is left if it is. -/
theorem cases_of_parsed {result : Except Fault (α × Shorter s)} {a? : Option α}
    (h : parsed result = a?.map (·, t)) :
    (a? = none ∧ ∃ f, result = .error f) ∨
      ∃ a hlt, a? = some a ∧ result = .ok (a, ⟨t, hlt⟩) := by
  cases result with
  | error f =>
      cases a? with
      | none => exact Or.inl ⟨rfl, f, rfl⟩
      | some a => cases h
  | ok p =>
      obtain ⟨a, r, hr⟩ := p
      cases a? with
      | none => cases h
      | some a' =>
          cases h
          exact Or.inr ⟨a, hr, rfl, rfl⟩

end Parts

/-- Without white space nothing is passed over. -/
theorem skipSpace_cons {c : Char} (hc : isSpace c = false) (r : List Char) :
    skipSpace (c :: r) = .all (c :: r) := by
  rw [skipSpace, if_neg (ne_true_of_eq_false hc)]

theorem readSeparator_close {close : Char} (hclose : isSpace close = false)
    (atEnd otherwise : Cause) (r : List Char) :
    readSeparator close atEnd otherwise (close :: r) = .ok (false, ⟨r, Nat.lt_succ_self _⟩) := by
  rw [readSeparator, skipSpace_cons hclose]
  dsimp only
  rw [if_pos rfl]

theorem readSeparator_comma {close : Char} (hclose : ',' ≠ close) (atEnd otherwise : Cause)
    (r : List Char) :
    readSeparator close atEnd otherwise (',' :: r) = .ok (true, ⟨r, Nat.lt_succ_self _⟩) := by
  rw [readSeparator, skipSpace_cons rfl]
  dsimp only
  rw [if_neg hclose, if_pos rfl]

theorem nextItem_cons {c : Char} (hc : isOpening c = true) (r : List Char) :
    nextItem (c :: r) = .ok (.all (c :: r)) := by
  have hclose : c ≠ ']' := by
    rintro rfl
    cases hc
  rw [nextItem, skipSpace_cons (not_isSpace_of_isOpening hc)]
  dsimp only
  rw [if_neg hclose]

theorem firstItem_close (r : List Char) :
    firstItem (']' :: r) = .ok (false, ⟨r, Nat.le_succ _⟩) := by
  rw [firstItem, skipSpace_cons rfl]
  dsimp only
  rw [if_pos rfl]

theorem firstItem_cons {c : Char} (hc : isOpening c = true) (r : List Char) :
    firstItem (c :: r) = .ok (true, .all (c :: r)) := by
  have hclose : c ≠ ']' := by
    rintro rfl
    cases hc
  rw [firstItem, skipSpace_cons (not_isSpace_of_isOpening hc)]
  dsimp only
  rw [if_neg hclose]

/-! ## Elements -/

/-- The text of a value opens like one, and the value is read from it with its numbers read back. -/
structure IsReread (depth : Nat) (v : Value) : Prop where
  opening : ∃ c r, compactText v = c :: r ∧ isOpening c = true
  parsed_readValue : ∀ {rest : List Char}, EndsNumber rest →
    parsed (readValue depth (compactText v ++ rest)) = v.reread?.map (·, rest)

section Items

variable {depth : Nat}

theorem parsed_readItems_last {s rest : List Char} {v? : Option Value}
    (h : parsed (readValue depth s) = v?.map (·, ']' :: rest)) (index : Nat) :
    parsed (readItems depth index s) = v?.map ([·], rest) := by
  rcases cases_of_parsed h with ⟨rfl, f, hread⟩ | ⟨v, hlt, rfl, hread⟩
  · rw [readItems, hread]
    rfl
  · rw [readItems, hread]
    dsimp only
    rw [readSeparator_close rfl]
    rfl

theorem parsed_readItems_cons {s r : List Char} {c : Char} {v? : Option Value}
    (hc : isOpening c = true) (h : parsed (readValue depth s) = v?.map (·, ',' :: c :: r))
    (index : Nat) :
    parsed (readItems depth index s) = v?.bind fun v =>
      (parsed (readItems depth (index + 1) (c :: r))).map fun (vs, rest) => (v :: vs, rest) := by
  rcases cases_of_parsed h with ⟨rfl, f, hread⟩ | ⟨v, hlt, rfl, hread⟩
  · rw [readItems, hread]
    rfl
  · rw [readItems, hread]
    dsimp only
    rw [readSeparator_comma (by decide)]
    dsimp only
    rw [nextItem_cons hc]
    dsimp only
    cases readItems depth (index + 1) (c :: r) <;> rfl

theorem endsNumber_comma (r : List Char) : EndsNumber (',' :: r) := by
  rintro c ⟨⟩
  decide

theorem endsNumber_bracket (r : List Char) : EndsNumber (']' :: r) := by
  rintro c ⟨⟩
  decide

theorem endsNumber_brace (r : List Char) : EndsNumber ('\x7d' :: r) := by
  rintro c ⟨⟩
  decide

theorem compactItems_cons_cons (v w : Value) (ws : List Value) :
    compactItems (v :: w :: ws) = compactText v ++ ',' :: compactItems (w :: ws) := by
  rw [compactItems]
  nofun

theorem compactItems_opening {v : Value} (hv : IsReread depth v) (vs : List Value) :
    ∃ c r, compactItems (v :: vs) = c :: r ∧ isOpening c = true := by
  obtain ⟨c, r, htext, hc⟩ := hv.opening
  cases vs with
  | nil => exact ⟨c, r, htext, hc⟩
  | cons w ws => exact ⟨c, _, by rw [compactItems_cons_cons, htext]; rfl, hc⟩

/-- **The elements of an array are read back**, and its end. -/
theorem parsed_readItems {v : Value} {vs : List Value}
    (h : ∀ w ∈ v :: vs, IsReread depth w) (index : Nat) (rest : List Char) :
    parsed (readItems depth index (compactItems (v :: vs) ++ ']' :: rest))
      = (rereadItems? (v :: vs)).map (·, rest) := by
  induction vs generalizing v index with
  | nil =>
      have hv := (h v List.mem_cons_self).parsed_readValue (endsNumber_bracket rest)
      rw [compactItems, parsed_readItems_last hv, rereadItems?, rereadItems?]
      cases v.reread? <;> rfl
  | cons w ws ih =>
      rw [List.forall_mem_cons] at h
      obtain ⟨c, r, htext, hc⟩ := compactItems_opening (h.2 w List.mem_cons_self) ws
      have hassoc : compactItems (v :: w :: ws) ++ ']' :: rest
          = compactText v ++ ',' :: c :: (r ++ ']' :: rest) := by
        rw [compactItems_cons_cons, List.append_assoc, List.cons_append, htext]
        rfl
      have hv := h.1.parsed_readValue (endsNumber_comma (c :: (r ++ ']' :: rest)))
      have hothers := ih h.2 (index + 1)
      rw [htext] at hothers
      rw [List.cons_append] at hothers
      rw [hassoc, parsed_readItems_cons hc hv, hothers, rereadItems?_cons v]
      cases v.reread? with
      | none => rfl
      | some v' => cases rereadItems? (w :: ws) <;> rfl

end Items

/-! ## Members -/

theorem readColon_cons (r : List Char) :
    readColon (':' :: r) = .ok ⟨r, Nat.lt_succ_self _⟩ := by
  rw [readColon, skipSpace_cons rfl]
  dsimp only
  rw [if_pos rfl]

theorem nextKey_quote (r : List Char) : nextKey ('"' :: r) = .ok ⟨r, Nat.lt_succ_self _⟩ := by
  rw [nextKey, skipSpace_cons rfl]
  dsimp only
  rw [if_pos rfl]

theorem firstKey_quote (r : List Char) :
    firstKey ('"' :: r) = .ok (true, ⟨r, Nat.lt_succ_self _⟩) := by
  rw [firstKey, skipSpace_cons rfl]
  dsimp only
  rw [if_pos rfl]

theorem firstKey_close (r : List Char) :
    firstKey ('\x7d' :: r) = .ok (false, ⟨r, Nat.lt_succ_self _⟩) := by
  rw [firstKey, skipSpace_cons rfl]
  dsimp only
  rw [if_neg (by decide), if_pos rfl]

section Members

variable {depth : Nat} {name : String}

/-- The text of a member behind the quote that opens its name, with other text behind it. -/
def memberBody (name : String) (text : List Char) : List Char :=
  name.toList.flatMap escaped ++ '"' :: ':' :: text

theorem parsed_readMembers_last {s rest : List Char} {v? : Option Value}
    (h : parsed (readValue depth s) = v?.map (·, '\x7d' :: rest)) :
    parsed (readMembers depth (memberBody name s)) = v?.map fun v => ([(name, v)], rest) := by
  obtain ⟨_, hname⟩ := readString_quoted name.toList (':' :: s)
  rw [memberBody, readMembers, hname]
  dsimp only
  rw [readColon_cons]
  dsimp only
  rcases cases_of_parsed h with ⟨rfl, f, hread⟩ | ⟨v, hlt, rfl, hread⟩
  · rw [hread]
    rfl
  · rw [hread]
    dsimp only
    rw [readSeparator_close rfl, String.ofList_toList]
    rfl

theorem parsed_readMembers_cons {s r : List Char} {v? : Option Value}
    (h : parsed (readValue depth s) = v?.map (·, ',' :: '"' :: r)) :
    parsed (readMembers depth (memberBody name s)) = v?.bind fun v =>
      (parsed (readMembers depth r)).map fun (ms, rest) => ((name, v) :: ms, rest) := by
  obtain ⟨_, hname⟩ := readString_quoted name.toList (':' :: s)
  rw [memberBody, readMembers, hname]
  dsimp only
  rw [readColon_cons]
  dsimp only
  rcases cases_of_parsed h with ⟨rfl, f, hread⟩ | ⟨v, hlt, rfl, hread⟩
  · rw [hread]
    rfl
  · rw [hread]
    dsimp only
    rw [readSeparator_comma (by decide)]
    dsimp only
    rw [nextKey_quote, String.ofList_toList]
    dsimp only
    cases readMembers depth r <;> rfl

theorem compactMembers_singleton (name : String) (v : Value) (rest : List Char) :
    compactMembers [(name, v)] ++ rest = '"' :: memberBody name (compactText v ++ rest) := by
  simp [compactMembers, quoted, memberBody]

theorem compactMembers_cons_cons (name : String) (v : Value) (m : String × Value)
    (ms : List (String × Value)) (rest : List Char) :
    compactMembers ((name, v) :: m :: ms) ++ rest
      = '"' :: memberBody name (compactText v ++ ',' :: (compactMembers (m :: ms) ++ rest)) := by
  simp [compactMembers, quoted, memberBody]

/-- **The members of an object are read back**, and its end. -/
theorem parsed_readMembers {m : String × Value} {ms : List (String × Value)}
    (h : ∀ m' ∈ m :: ms, IsReread depth m'.2) (rest : List Char) :
    ∃ body, compactMembers (m :: ms) ++ '\x7d' :: rest = '"' :: body ∧
      parsed (readMembers depth body) = (rereadMembers? (m :: ms)).map (·, rest) := by
  obtain ⟨name, v⟩ := m
  induction ms generalizing name v with
  | nil =>
      have hv := (h (name, v) List.mem_cons_self).parsed_readValue (endsNumber_brace rest)
      refine ⟨_, compactMembers_singleton name v _, ?_⟩
      rw [parsed_readMembers_last hv, rereadMembers?_cons, rereadMembers?]
      cases v.reread? <;> rfl
  | cons m ms ih =>
      rw [List.forall_mem_cons] at h
      obtain ⟨body, htext, hothers⟩ := ih m.1 m.2 h.2
      have hv := h.1.parsed_readValue (endsNumber_comma ('"' :: body))
      refine ⟨_, compactMembers_cons_cons name v m ms _, ?_⟩
      rw [htext, parsed_readMembers_cons hv, hothers, rereadMembers?_cons name v]
      cases v.reread? with
      | none => rfl
      | some w => cases rereadMembers? (m :: ms) <;> rfl

end Members

/-! ## Values -/

theorem parsed_readValue_array {depth : Nat} (hdepth : 1 < depth) {items : List Value}
    (h : ∀ v ∈ items, IsReread (depth - 1) v) (rest : List Char) :
    parsed (readValue depth (compactText (.array items) ++ rest))
      = (Value.array items).reread?.map (·, rest) := by
  have htext : compactText (.array items) ++ rest = '[' :: (compactItems items ++ ']' :: rest) := by
    simp [compactText]
  rw [htext, readValue, skipSpace_cons rfl]
  dsimp only
  rw [if_pos rfl, if_neg (Nat.not_le.mpr hdepth), Value.reread?]
  cases items with
  | nil =>
      rw [compactItems, List.nil_append, firstItem_close]
      rfl
  | cons v vs =>
      obtain ⟨c, r, hopening, hc⟩ := compactItems_opening (h v List.mem_cons_self) vs
      have hitems := parsed_readItems h 0 rest
      rw [hopening, List.cons_append] at hitems ⊢
      rw [firstItem_cons hc]
      dsimp only
      rcases cases_of_parsed hitems with ⟨hnone, f, hread⟩ | ⟨ws, hlt, hsome, hread⟩
      · rw [hread, hnone]
        rfl
      · rw [hread, hsome]
        rfl

theorem parsed_readValue_object {depth : Nat} (hdepth : 1 < depth)
    {members : List (String × Value)} (hnames : (members.map Prod.fst).Nodup)
    (h : ∀ m ∈ members, IsReread (depth - 1) m.2) (rest : List Char) :
    parsed (readValue depth (compactText (.object members) ++ rest))
      = (Value.object members).reread?.map (·, rest) := by
  have htext : compactText (.object members) ++ rest
      = '\x7b' :: (compactMembers members ++ '\x7d' :: rest) := by
    simp [compactText]
  rw [htext, readValue, skipSpace_cons rfl]
  dsimp only
  rw [if_neg (by decide), if_pos rfl, if_neg (Nat.not_le.mpr hdepth), Value.reread?]
  cases members with
  | nil =>
      rw [compactMembers, List.nil_append, firstKey_close]
      rfl
  | cons m ms =>
      obtain ⟨body, hopening, hmembers⟩ := parsed_readMembers h rest
      rw [hopening, firstKey_quote]
      dsimp only
      rcases cases_of_parsed hmembers with ⟨hnone, f, hread⟩ | ⟨ns, hlt, hsome, hread⟩
      · rw [hread, hnone]
        rfl
      · rw [← names_of_rereadMembers? hsome] at hnames
        rw [hread, hsome]
        show some (Value.ofMembers ns, rest) = some (Value.object ns, rest)
        rw [Value.ofMembers_of_nodup hnames]

theorem Numeral.IsLiteral.exists_isOpening {n : Numeral} {text : List Char}
    (h : n.IsLiteral text) : ∃ c r, text = c :: r ∧ isOpening c = true := by
  obtain ⟨digits, hdigits, rfl⟩ := h
  split_ifs
  · exact ⟨'-', digits, rfl, rfl⟩
  · obtain ⟨d, r, hd, rfl⟩ := hdigits.exists_isDigit
    exact ⟨d, r, rfl, by simp [isOpening, hd]⟩

theorem readWord_append (letters rest : List Char) :
    ∃ h, readWord letters (letters ++ rest) = .ok ⟨rest, h⟩ := by
  induction letters with
  | nil => exact ⟨le_rfl, rfl⟩
  | cons l letters ih =>
      obtain ⟨h, hread⟩ := ih
      refine ⟨Remainder.le_cons h, ?_⟩
      show readWord (l :: letters) (l :: (letters ++ rest)) = _
      rw [readWord, if_pos rfl, hread]
      rfl

/-- A constant is read back. -/
theorem isReread_constant {depth : Nat} {v : Value} {c : Char} {letters : List Char}
    (htext : compactText v = c :: letters) (hv : v.reread? = some v) (hc : isOpening c = true)
    (hlist : c ≠ '[') (hobject : c ≠ '\x7b')
    (hscalar : ∀ r, readScalar c r = readConstant letters v r) : IsReread depth v := by
  refine ⟨⟨c, letters, htext, hc⟩, fun {rest} _ => ?_⟩
  obtain ⟨_, hread⟩ := readWord_append letters rest
  rw [htext, List.cons_append, readValue_of_isOpening hc hlist hobject, hscalar, readConstant,
    hread, hv]
  rfl

theorem isReread_text (depth : Nat) (t : String) : IsReread depth (.text t) := by
  refine ⟨⟨'"', _, rfl, rfl⟩, fun {rest} _ => ?_⟩
  obtain ⟨_, hread⟩ := readString_quoted t.toList rest
  have htext : compactText (.text t) ++ rest
      = '"' :: (t.toList.flatMap escaped ++ '"' :: rest) := by
    simp [compactText, scalarText?, quoted]
  rw [htext, readValue_of_isOpening rfl (by decide) (by decide), readScalar, hread]
  show some (Value.text (String.ofList t.toList), rest) = some (Value.text t, rest)
  rw [String.ofList_toList]

theorem isReread_number {x : Number} (hx : x.IsReadable) (depth : Nat) :
    IsReread depth (.number x) := by
  cases hx with
  | @integer i hlow hhigh =>
      obtain ⟨n, hn, _⟩ := exists_literal_intText hlow hhigh
      exact ⟨hn.exists_isOpening, fun hrest => parsed_readValue_intText hlow hhigh hrest depth⟩
  | @float x hx =>
      obtain ⟨n, hn⟩ := exists_writes_floatText hx
      refine ⟨hn.literal.exists_isOpening, fun {rest} hrest => ?_⟩
      rw [Value.reread?, Option.map_map]
      exact parsed_readValue_floatText hx hrest depth

/-- **The value of a document is read from its text** with its numbers read back. -/
theorem Value.IsDocument.isReread {depth : Nat} {v : Value} (hv : v.IsDocument depth) :
    IsReread depth v := by
  induction hv with
  | null => exact isReread_constant rfl rfl rfl (by decide) (by decide) fun _ => rfl
  | bool b =>
      cases b with
      | true => exact isReread_constant rfl rfl rfl (by decide) (by decide) fun _ => rfl
      | false => exact isReread_constant rfl rfl rfl (by decide) (by decide) fun _ => rfl
  | number hx => exact isReread_number hx _
  | text t => exact isReread_text _ t
  | @array depth items hdepth _ ih =>
      exact ⟨⟨'[', _, rfl, rfl⟩, fun {rest} _ => parsed_readValue_array hdepth ih rest⟩
  | @object depth members hdepth hnames _ ih =>
      exact ⟨⟨'\x7b', _, rfl, rfl⟩, fun {rest} _ => parsed_readValue_object hdepth hnames ih rest⟩

/-- **The text of a document's value is a document** again, of the value with its numbers read
back, unless one of them cannot be read. -/
theorem toOption_read_compact {v : Value} (hv : v.IsDocument depthLimit) :
    (read (compact v)).toOption = v.reread? := by
  have hparsed := hv.isReread.parsed_readValue endsNumber_nil
  rw [List.append_nil] at hparsed
  exact toOption_read hparsed

end Specimen.Json
