import Mathlib.Tactic.SplitIfs
import Specimen.Json.Writer
import Specimen.Proofs.Json.Reading

set_option autoImplicit false

/-! # Written texts are unambiguous

Two values without numbers are written alike only if they are the same, and where the text of such
a value starts, it is clear where it ends: no further text makes one value of it and the beginning
of another one (`prettyText_append_inj`). Numbers are left out because theirs is no such text: the
text of 1 goes on to that of 12.

The reason is that the first character of a text tells the kind of the value (`Value.opening?`),
that a string is read back as it was written (`readString_quoted`), and that the line of a closing
bracket cannot be mistaken for the comma in front of a further element. The argument follows the
value; it needs no reader, which would refuse values that are nested too deep.
-/

namespace Specimen.Json

/-! ## Strings -/

theorem hexValue?_hexDigit : ∀ n < 16, hexValue? (hexDigit n) = some n := by
  decide

/-- The numeric escape of a control character is read as this character. -/
theorem readEscape_hexDigits {c : Char} (hc : c.toNat < 0x20) (t : List Char) :
    ∃ h, readEscape ('u' :: '0' :: '0' :: hexDigit (c.toNat / 16) :: hexDigit (c.toNat % 16) :: t)
      = .ok (c, ⟨t, h⟩) := by
  have hnumber : hexNumber? ['0', '0', hexDigit (c.toNat / 16), hexDigit (c.toNat % 16)]
      = some c.toNat := by
    have hdiv := hexValue?_hexDigit (c.toNat / 16) (by omega)
    have hmod := hexValue?_hexDigit (c.toNat % 16) (by omega)
    have hzero : hexValue? '0' = some 0 := rfl
    simp only [hexNumber?, List.foldlM_cons, List.foldlM_nil, hdiv, hmod, hzero]
    simp
    omega
  -- a control character is no half of a pair
  have htrailing : isTrailing c.toNat = false := by simp [isTrailing]; omega
  have hleading : isLeading c.toNat = false := by simp [isLeading]; omega
  have hchar : Char.ofNat c.toNat = c := Char.ofNat_toNat c
  refine ⟨by simp only [List.length_cons]; omega, ?_⟩
  simp only [readEscape, readCodePoint, readHex, hnumber, htrailing, hleading, hchar, Except.map]
  simp

/-- A character in a string is written as it is, which it can only be if it ends nothing, or as an
escape that is read as this character. -/
theorem escaped_cases (c : Char) :
    (escaped c = [c] ∧ c ≠ '"' ∧ c ≠ '\\' ∧ 0x20 ≤ c.toNat) ∨
      ∃ letters, escaped c = '\\' :: letters ∧
        ∀ t, ∃ h, readEscape (letters ++ t) = .ok (c, ⟨t, h⟩) := by
  unfold escaped
  split
  case h_8 hquote hbackslash _ _ _ _ _ =>
    split_ifs with hc
    · exact Or.inr ⟨_, rfl, readEscape_hexDigits hc⟩
    · exact Or.inl ⟨rfl, hquote, hbackslash, Nat.le_of_not_lt hc⟩
  -- the escapes of one letter
  all_goals exact Or.inr ⟨_, rfl, fun t => ⟨Nat.lt_succ_self _, rfl⟩⟩

theorem readString_escaped {t cs rest : List Char} {ht : rest.length < t.length}
    (hread : readString t = .ok (cs, ⟨rest, ht⟩)) (c : Char) :
    ∃ h, readString (escaped c ++ t) = .ok (c :: cs, ⟨rest, h⟩) := by
  rcases escaped_cases c with ⟨heq, hc⟩ | ⟨letters, heq, hletters⟩
  · rw [heq]
    exact ⟨_, readString_cons hc hread⟩
  · obtain ⟨h, hescape⟩ := hletters t
    rw [heq]
    refine ⟨Nat.lt_succ_of_lt (Nat.lt_trans ht h), ?_⟩
    show readString ('\\' :: (letters ++ t)) = _
    rw [readString]
    simp only [hescape, hread]

/-- **A written string is read back**, whatever its characters are. -/
theorem readString_quoted (cs rest : List Char) :
    ∃ h, readString (cs.flatMap escaped ++ '"' :: rest) = .ok (cs, ⟨rest, h⟩) := by
  induction cs with
  | nil => exact ⟨_, readString_quote rest⟩
  | cons c cs ih =>
      obtain ⟨_, hread⟩ := ih
      rw [List.flatMap_cons, List.append_assoc]
      exact readString_escaped hread c

/-- A written string determines the string, and where it ends. -/
theorem quoted_append_inj {a b r r' : List Char} (h : quoted a ++ r = quoted b ++ r') :
    a = b ∧ r = r' := by
  -- both strings are read from the same text
  have hbody : a.flatMap escaped ++ '"' :: r = b.flatMap escaped ++ '"' :: r' := by
    simpa [quoted] using h
  obtain ⟨_, hread⟩ := readString_quoted a r
  obtain ⟨_, hread'⟩ := readString_quoted b r'
  have hparts : ∀ s : List Char, s = a.flatMap escaped ++ '"' :: r →
      (readString s).map (fun p => (p.1, p.2.1)) = .ok (a, r) := by
    rintro s rfl
    rw [hread]
    rfl
  have hsame := hparts _ hbody.symm
  rw [hread'] at hsame
  cases hsame
  exact ⟨rfl, rfl⟩

/-! ## Entries between brackets -/

section Entries

variable {α : Type} {write : α → List Char} {xs ys : List α} {r r' : List Char}

/-- If the text of each entry starts with a comma and determines the entry and where it ends, then
the text of a list of entries does so too, in front of what does not start with a comma. -/
theorem flatMap_append_inj (hcomma : ∀ a, ∃ t, write a = ',' :: t)
    (hwrite : ∀ x ∈ xs, ∀ y ∈ ys, ∀ s s', write x ++ s = write y ++ s' → x = y ∧ s = s')
    (hr : r.head? ≠ some ',') (hr' : r'.head? ≠ some ',')
    (h : xs.flatMap write ++ r = ys.flatMap write ++ r') : xs = ys ∧ r = r' := by
  have hstart : ∀ (a : α) (s : List Char), (write a ++ s).head? = some ',' := by
    intro a s
    obtain ⟨t, ht⟩ := hcomma a
    rw [ht]
    rfl
  induction xs generalizing ys with
  | nil =>
      cases ys with
      | nil => exact ⟨rfl, h⟩
      | cons y ys =>
          rw [List.flatMap_cons, List.append_assoc, List.flatMap_nil, List.nil_append] at h
          exact absurd (h ▸ hstart y _) hr
  | cons x xs ih =>
      cases ys with
      | nil =>
          rw [List.flatMap_cons, List.append_assoc, List.flatMap_nil, List.nil_append] at h
          exact absurd (h ▸ hstart x _) hr'
      | cons y ys =>
          rw [List.flatMap_cons, List.flatMap_cons, List.append_assoc, List.append_assoc] at h
          obtain ⟨rfl, hrest⟩ := hwrite x List.mem_cons_self y List.mem_cons_self _ _ h
          obtain ⟨rfl, hend⟩ := ih (fun a ha b hb => hwrite a (List.mem_cons_of_mem _ ha) b
            (List.mem_cons_of_mem _ hb)) hrest
          exact ⟨rfl, hend⟩

/-- What stands behind the opening bracket of a list of entries: the closing bracket if there are
none, otherwise the entries without the comma in front of the first one, and the closing bracket on
a line of its own. -/
def closedText (write : α → List Char) (depth : Nat) (close : Char) (entries : List α) :
    List Char :=
  if entries.isEmpty then [close] else (entries.flatMap write).tail ++ newLine depth ++ [close]

theorem closedText_append_inj {depth : Nat} {close : Char} (hclose : close ≠ '\n')
    (hcomma : ∀ a, ∃ t, write a = ',' :: '\n' :: t)
    (hwrite : ∀ x ∈ xs, ∀ y ∈ ys, ∀ s s', write x ++ s = write y ++ s' → x = y ∧ s = s')
    (h : closedText write depth close xs ++ r = closedText write depth close ys ++ r') :
    xs = ys ∧ r = r' := by
  cases xs with
  | nil =>
      cases ys with
      | nil => exact ⟨rfl, List.append_cancel_left h⟩
      | cons y ys =>
          -- the closing bracket is no line break
          obtain ⟨t, ht⟩ := hcomma y
          simp [closedText, ht, hclose] at h
  | cons x xs =>
      cases ys with
      | nil =>
          obtain ⟨t, ht⟩ := hcomma x
          simp [closedText, ht, hclose.symm] at h
      | cons y ys =>
          have hfull : ∀ (a : α) (as : List α) (s : List Char),
              ',' :: (closedText write depth close (a :: as) ++ s)
                = (a :: as).flatMap write ++ (newLine depth ++ close :: s) := by
            intro a as s
            obtain ⟨t, ht⟩ := hcomma a
            simp [closedText, ht]
          have hlines : (x :: xs).flatMap write ++ (newLine depth ++ close :: r)
              = (y :: ys).flatMap write ++ (newLine depth ++ close :: r') := by
            rw [← hfull, ← hfull, h]
          have hcomma' : ∀ a, ∃ t, write a = ',' :: t := by
            intro a
            obtain ⟨t, ht⟩ := hcomma a
            exact ⟨_, ht⟩
          obtain ⟨heq, hend⟩ := flatMap_append_inj hcomma' hwrite (by simp [newLine])
            (by simp [newLine]) hlines
          exact ⟨heq, List.tail_eq_of_cons_eq (List.append_cancel_left hend)⟩

end Entries

/-- An element of an array, on a line behind a comma. -/
def itemText (depth : Nat) (v : Value) : List Char :=
  ',' :: (newLine depth ++ prettyText depth v)

/-- A member of an object, on a line behind a comma. -/
def memberText (depth : Nat) (m : String × Value) : List Char :=
  ',' :: (newLine depth ++ quoted m.1.toList ++ [':', ' '] ++ prettyText depth m.2)

theorem prettyItems_eq (depth : Nat) (items : List Value) :
    prettyItems depth items = items.flatMap (itemText depth) := by
  induction items with
  | nil => rfl
  | cons v vs ih =>
      rw [prettyItems, ih, List.flatMap_cons, itemText]
      rfl

theorem prettyMembers_eq (depth : Nat) (members : List (String × Value)) :
    prettyMembers depth members = members.flatMap (memberText depth) := by
  induction members with
  | nil => rfl
  | cons m ms ih =>
      rw [prettyMembers, ih, List.flatMap_cons, memberText]
      rfl

theorem prettyText_array (depth : Nat) (items : List Value) :
    prettyText depth (.array items)
      = '[' :: closedText (itemText (depth + 1)) depth ']' items := by
  cases items with
  | nil => rfl
  | cons v vs =>
      rw [prettyText, prettyItems_eq]
      simp [closedText, itemText]

theorem prettyText_object (depth : Nat) (members : List (String × Value)) :
    prettyText depth (.object members)
      = '\x7b' :: closedText (memberText (depth + 1)) depth '\x7d' members := by
  cases members with
  | nil => rfl
  | cons m ms =>
      rw [prettyText, prettyMembers_eq]
      simp [closedText, memberText]

/-! ## Values -/

/-- A value in which no numbers occur. -/
inductive Value.Numberless : Value → Prop
  | null : Numberless .null
  | bool (b : Bool) : Numberless (.bool b)
  | text (t : String) : Numberless (.text t)
  | array {items : List Value} (h : ∀ v ∈ items, Numberless v) : Numberless (.array items)
  | object {members : List (String × Value)} (h : ∀ m ∈ members, Numberless m.2) :
      Numberless (.object members)

/-- The first character of a value's text, unless the value is a number. -/
def Value.opening? : Value → Option Char
  | .null => some 'n'
  | .bool true => some 't'
  | .bool false => some 'f'
  | .number _ => none
  | .text _ => some '"'
  | .array _ => some '['
  | .object _ => some '\x7b'

theorem Value.Numberless.head?_prettyText {v : Value} (hv : v.Numberless) (depth : Nat) :
    (prettyText depth v).head? = v.opening? := by
  cases hv with
  | null => rfl
  | bool b => cases b <;> rfl
  | text t => rfl
  | @array items h => cases items <;> rfl
  | @object members h => cases members <;> rfl

/-- Values without numbers whose texts start alike are of one kind. -/
theorem Value.Numberless.opening?_eq {v w : Value} (hv : v.Numberless) (hw : w.Numberless)
    {depth : Nat} {r r' : List Char} (h : prettyText depth v ++ r = prettyText depth w ++ r') :
    v.opening? = w.opening? := by
  have hhead : ∀ {u : Value}, u.Numberless → ∀ s, (prettyText depth u ++ s).head? = u.opening? := by
    intro u hu s
    rw [List.head?_append, hu.head?_prettyText]
    cases hu with
    | bool b => cases b <;> rfl
    | _ => rfl
  rw [← hhead hv r, ← hhead hw r', h]

/-- **Where the text of a value without numbers starts, its end is clear**, and so is the value. -/
theorem prettyText_append_inj {v w : Value} (hv : v.Numberless) (hw : w.Numberless) {depth : Nat}
    {r r' : List Char} (h : prettyText depth v ++ r = prettyText depth w ++ r') :
    v = w ∧ r = r' := by
  -- on the first value; the first character of its text leaves one kind for the second
  induction hv generalizing w depth r r' with
  | null =>
      have hkind := Value.Numberless.null.opening?_eq hw h
      cases hw with
      | null => exact ⟨rfl, List.append_cancel_left h⟩
      | bool b => cases b <;> cases hkind
      | _ => cases hkind
  | bool b =>
      have hkind := (Value.Numberless.bool b).opening?_eq hw h
      cases hw with
      | bool b' =>
          cases b <;> cases b'
          · exact ⟨rfl, List.append_cancel_left h⟩
          · cases hkind
          · cases hkind
          · exact ⟨rfl, List.append_cancel_left h⟩
      | _ => cases b <;> cases hkind
  | text t =>
      have hkind := (Value.Numberless.text t).opening?_eq hw h
      cases hw with
      | text t' =>
          obtain ⟨ht, hend⟩ := quoted_append_inj h
          exact ⟨congrArg Value.text (String.ext ht), hend⟩
      | bool b => cases b <;> cases hkind
      | _ => cases hkind
  | @array items hitems ih =>
      have hkind := (Value.Numberless.array hitems).opening?_eq hw h
      cases hw with
      | @array items' hitems' =>
          rw [prettyText_array, prettyText_array] at h
          have hitem : ∀ x ∈ items, ∀ y ∈ items', ∀ s s',
              itemText (depth + 1) x ++ s = itemText (depth + 1) y ++ s' → x = y ∧ s = s' := by
            intro x hx y hy s s' hxy
            simp only [itemText, List.cons_append, List.append_assoc] at hxy
            exact ih x hx (hitems' y hy) (List.append_cancel_left (List.tail_eq_of_cons_eq hxy))
          obtain ⟨rfl, hend⟩ := closedText_append_inj (by decide) (fun a => ⟨_, rfl⟩) hitem
            (List.tail_eq_of_cons_eq h)
          exact ⟨rfl, hend⟩
      | bool b => cases b <;> cases hkind
      | _ => cases hkind
  | @object members hmembers ih =>
      have hkind := (Value.Numberless.object hmembers).opening?_eq hw h
      cases hw with
      | @object members' hmembers' =>
          rw [prettyText_object, prettyText_object] at h
          have hmember : ∀ x ∈ members, ∀ y ∈ members', ∀ s s',
              memberText (depth + 1) x ++ s = memberText (depth + 1) y ++ s' → x = y ∧ s = s' := by
            intro x hx y hy s s' hxy
            simp only [memberText, List.cons_append, List.nil_append, List.append_assoc] at hxy
            obtain ⟨hname, hxy⟩ :=
              quoted_append_inj (List.append_cancel_left (List.tail_eq_of_cons_eq hxy))
            have hxy' := List.tail_eq_of_cons_eq (List.tail_eq_of_cons_eq hxy)
            obtain ⟨hvalue, hs⟩ := ih x hx (hmembers' y hy) hxy'
            exact ⟨Prod.ext (String.ext hname) hvalue, hs⟩
          obtain ⟨rfl, hend⟩ := closedText_append_inj (by decide) (fun a => ⟨_, rfl⟩) hmember
            (List.tail_eq_of_cons_eq h)
          exact ⟨rfl, hend⟩
      | bool b => cases b <;> cases hkind
      | _ => cases hkind

end Specimen.Json
