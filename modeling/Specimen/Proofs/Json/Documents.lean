import Specimen.Proofs.Json.Literal

set_option autoImplicit false

/-! # The values of documents

Not every JSON value is that of a document: integers have at most 64 bits, the other numbers are
numbers, no object has a name twice, and arrays and objects are not nested too deep
(`Value.IsDocument`). What the reader gives is such a value (`isDocument_of_read`), by induction on
the text that it reads.
-/

namespace Specimen.Json

open Specimen.Number

/-! ## Numbers -/

/-- A number that a document can hold. -/
inductive Number.IsReadable : Number → Prop
  | integer {i : Int} (hlow : -0x8000000000000000 ≤ i) (hhigh : i < 0x10000000000000000) :
      IsReadable (.integer i)
  | float {x : Binary64} (h : x.rank ≤ Binary64.infinityRank) : IsReadable (.float x)

/-- Scaling gives a number. -/
theorem rank_le_of_scaled? {x y : Binary64} {e : Int} (hx : x.rank ≤ Binary64.infinityRank)
    (h : scaled? x e = some y) : y.rank ≤ Binary64.infinityRank := by
  rw [scaled?] at h
  dsimp only at h
  split_ifs at h
  · cases h
    exact nearestRank_le_infinityRank _ _
  · cases h
    exact hx
  · cases h
    exact nearestRank_le_infinityRank _ _
  · cases h
    exact hx
  · exact rank_le_of_scaled? (x := x.div (powerOfTen largestExponent))
      (nearestRank_le_infinityRank _ _) h
termination_by (-e).toNat
decreasing_by simp only [largestExponent] at *; omega

theorem Numeral.rank_float_le {n : Numeral} {rest : List Char} {y : Binary64}
    (h : n.float? rest = .ok y) : y.rank ≤ Binary64.infinityRank := by
  rcases (float?_cases h).2 with ⟨hzero, _⟩ | ⟨x, hx, hrank⟩
  · rw [hzero]
    exact Nat.zero_le _
  · rw [hrank]
    exact rank_le_of_scaled? (nearestRank_le_infinityRank _ _) hx

/-- Collected digits fit into 64 bits. -/
theorem collectWhole_lt {s : Nat} (hs : s < 0x10000000000000000) (ds : List Char) :
    (collectWhole s ds).1 < 0x10000000000000000 := by
  induction ds generalizing s with
  | nil => exact hs
  | cons d ds ih =>
      unfold collectWhole
      split_ifs with hfits
      · exact ih (by simpa [fits] using hfits)
      · exact hs

theorem Numeral.integer?_range {n : Numeral} {i : Int} (h : n.integer? = some i) :
    -0x8000000000000000 ≤ i ∧ i < 0x10000000000000000 := by
  have hlt := collectWhole_lt (s := 0) (by decide) n.whole
  unfold integer? at h
  dsimp only at h
  split_ifs at h with hplain hdropped hsign hrange
  · cases h
    omega
  · cases h
    omega

theorem Numeral.isReadable_of_toNumber {n : Numeral} {rest : List Char} {x : Number}
    (h : n.toNumber rest = .ok x) : x.IsReadable := by
  unfold toNumber at h
  split at h
  · next i hi =>
      cases h
      obtain ⟨hlow, hhigh⟩ := integer?_range hi
      exact .integer hlow hhigh
  · obtain ⟨y, hy, rfl⟩ := exists_of_map_eq_ok h
    exact .float (rank_float_le hy)

/-! ## Members -/

/-- Writing a member into an object leaves its names distinct. -/
theorem names_insertMember (members : List (String × Value)) (name : String) (v : Value) :
    (insertMember members name v).map Prod.fst
      = if name ∈ members.map Prod.fst then members.map Prod.fst
        else members.map Prod.fst ++ [name] := by
  induction members with
  | nil => rfl
  | cons m members ih =>
      obtain ⟨n, w⟩ := m
      unfold insertMember
      by_cases hname : n = name
      · simp [hname]
      · rw [if_neg hname, List.map_cons, ih]
        by_cases hmem : name ∈ members.map Prod.fst
        · have hmem' : name ∈ ((n, w) :: members).map Prod.fst := List.mem_cons_of_mem _ hmem
          rw [if_pos hmem, if_pos hmem']
          rfl
        · have hnot : name ∉ ((n, w) :: members).map Prod.fst := by
            rw [List.map_cons, List.mem_cons, not_or]
            exact ⟨Ne.symm hname, hmem⟩
          rw [if_neg hmem, if_neg hnot]
          rfl

theorem mem_of_mem_insertMember {members : List (String × Value)} {name : String} {v : Value}
    {m : String × Value} (h : m ∈ insertMember members name v) : m ∈ members ∨ m = (name, v) := by
  induction members with
  | nil => exact Or.inr (List.mem_singleton.mp h)
  | cons first members ih =>
      obtain ⟨n, w⟩ := first
      unfold insertMember at h
      split_ifs at h with hname
      · rcases List.mem_cons.mp h with rfl | h
        · exact Or.inr (by rw [hname])
        · exact Or.inl (List.mem_cons_of_mem _ h)
      · rcases List.mem_cons.mp h with rfl | h
        · exact Or.inl List.mem_cons_self
        · exact (ih h).imp_left (List.mem_cons_of_mem _)

theorem insertMember_of_not_mem {members : List (String × Value)} {name : String}
    (h : name ∉ members.map Prod.fst) (v : Value) :
    insertMember members name v = members ++ [(name, v)] := by
  induction members with
  | nil => rfl
  | cons m members ih =>
      rw [List.map_cons, List.mem_cons, not_or] at h
      rw [insertMember, if_neg (Ne.symm h.1), ih h.2]
      rfl

/-- Members with distinct names build the object that has these members. -/
theorem Value.ofMembers_of_nodup {members : List (String × Value)}
    (h : (members.map Prod.fst).Nodup) : Value.ofMembers members = .object members := by
  -- the members written so far come first
  have hbuilt : ∀ done : List (String × Value), ((done ++ members).map Prod.fst).Nodup →
      members.foldl (fun done m => insertMember done m.1 m.2) done = done ++ members := by
    clear h
    induction members with
    | nil => exact fun done _ => (List.append_nil done).symm
    | cons m members ih =>
        intro done hnames
        have hassoc : done ++ [m] ++ members = done ++ m :: members := by
          rw [List.append_assoc]
          rfl
        have hnew : m.1 ∉ done.map Prod.fst := by
          rw [List.map_append, List.nodup_append] at hnames
          exact fun hmem => hnames.2.2 m.1 hmem m.1 List.mem_cons_self rfl
        rw [List.foldl_cons, insertMember_of_not_mem hnew, ih _ (by rw [hassoc]; exact hnames),
          hassoc]
  exact congrArg Value.object (hbuilt [] h)

/-! ## Values -/

/-- A value that a document can have, if arrays and objects may be nested less than `depth`
deep. -/
inductive Value.IsDocument : Nat → Value → Prop
  | null {depth : Nat} : IsDocument depth .null
  | bool {depth : Nat} (b : Bool) : IsDocument depth (.bool b)
  | number {depth : Nat} {x : Number} (h : x.IsReadable) : IsDocument depth (.number x)
  | text {depth : Nat} (t : String) : IsDocument depth (.text t)
  | array {depth : Nat} {items : List Value} (hdepth : 1 < depth)
      (h : ∀ v ∈ items, IsDocument (depth - 1) v) : IsDocument depth (.array items)
  | object {depth : Nat} {members : List (String × Value)} (hdepth : 1 < depth)
      (hnames : (members.map Prod.fst).Nodup) (h : ∀ m ∈ members, IsDocument (depth - 1) m.2) :
      IsDocument depth (.object members)

/-- The object that members build has distinct names. -/
theorem Value.isDocument_ofMembers {depth : Nat} {members : List (String × Value)}
    (hdepth : 1 < depth) (h : ∀ m ∈ members, m.2.IsDocument (depth - 1)) :
    (Value.ofMembers members).IsDocument depth := by
  -- what holds of the members written so far
  have hbuilt : ∀ done : List (String × Value), (done.map Prod.fst).Nodup →
      (∀ m ∈ done, m.2.IsDocument (depth - 1)) →
      (Value.object (members.foldl (fun done m => insertMember done m.1 m.2) done)).IsDocument
        depth := by
    induction members with
    | nil => exact fun done hnames hdone => .object hdepth hnames hdone
    | cons m members ih =>
        intro done hnames hdone
        rw [List.forall_mem_cons] at h
        refine ih h.2 _ ?_ ?_
        · rw [names_insertMember]
          split_ifs with hmem
          · exact hnames
          · exact List.nodup_append.mpr ⟨hnames, List.pairwise_singleton _ _,
              fun a ha b hb => ne_of_mem_of_not_mem ha (List.mem_singleton.mp hb ▸ hmem)⟩
        · intro m' hm'
          rcases mem_of_mem_insertMember hm' with hm' | rfl
          · exact hdone m' hm'
          · exact h.1
  exact hbuilt [] List.nodup_nil (by simp)

theorem isReadable_of_readNumber {negative : Bool} {s : List Char} {x : Number} {r : Shorter s}
    (h : readNumber negative s = .ok (x, r)) : x.IsReadable := by
  obtain ⟨n, _, _, _, _, hx⟩ := isUnsigned_of_readNumber h
  exact Numeral.isReadable_of_toNumber hx

theorem isDocument_of_readScalar {depth : Nat} {c : Char} {r : List Char} {v : Value}
    {t : NotLonger r} (h : readScalar c r = .ok (v, t)) : v.IsDocument depth := by
  unfold readScalar at h
  split at h
  · rw [eq_of_readConstant h]
    exact .null
  · rw [eq_of_readConstant h]
    exact .bool true
  · rw [eq_of_readConstant h]
    exact .bool false
  · obtain ⟨_, _, heq⟩ := exists_of_map_eq_ok h
    cases heq
    exact .text _
  · obtain ⟨_, hx, heq⟩ := exists_of_map_eq_ok h
    cases heq
    exact .number (isReadable_of_readNumber hx)
  · split_ifs at h
    obtain ⟨_, hx, heq⟩ := exists_of_map_eq_ok h
    cases heq
    exact .number (isReadable_of_readNumber hx)

mutual

/-- **A value that is read is that of a document.** -/
theorem isDocument_of_readValue {depth : Nat} {s : List Char} {v : Value} {t : Shorter s}
    (h : readValue depth s = .ok (v, t)) : v.IsDocument depth := by
  rw [readValue] at h
  split at h
  · cases h
  · next c r hr _ =>
      split_ifs at h with hlist hdepth hobject hdepth
      · split at h
        · cases h
        · cases h
          exact .array (by omega) (by simp)
        · next u hu _ =>
            have hlt : u.length < s.length := Remainder.lt_of_le_lt hu hr
            obtain ⟨_, hitems, heq⟩ := exists_of_map_eq_ok h
            cases heq
            exact .array (by omega) (isDocument_of_readItems hitems)
      · split at h
        · cases h
        · cases h
          exact .object (by omega) List.nodup_nil (by simp)
        · next u hu _ =>
            have hlt : u.length < s.length := Remainder.lt_of_lt_lt hu hr
            obtain ⟨_, hmembers, heq⟩ := exists_of_map_eq_ok h
            cases heq
            exact Value.isDocument_ofMembers (by omega) (isDocument_of_readMembers hmembers)
      · obtain ⟨_, hscalar, heq⟩ := exists_of_map_eq_ok h
        cases heq
        exact isDocument_of_readScalar hscalar
termination_by (s.length, 0)

theorem isDocument_of_readItems {depth index : Nat} {s : List Char} {items : List Value}
    {t : Shorter s} (h : readItems depth index s = .ok (items, t)) :
    ∀ v ∈ items, v.IsDocument depth := by
  rw [readItems] at h
  split at h
  · cases h
  · next v r hr hv =>
    have hfirst := isDocument_of_readValue hv
    split at h
    · cases h
    · cases h
      exact List.forall_mem_singleton.mpr hfirst
    · next u hu _ =>
      dsimp only at h
      split at h
      · cases h
      · next w hw _ =>
        have hlt : w.length < s.length :=
          Remainder.lt_of_le_lt hw (Remainder.lt_of_lt_lt hu hr)
        obtain ⟨_, hothers, heq⟩ := exists_of_map_eq_ok h
        cases heq
        exact List.forall_mem_cons.mpr ⟨hfirst, isDocument_of_readItems hothers⟩
termination_by (s.length, 1)

theorem isDocument_of_readMembers {depth : Nat} {s : List Char} {members : List (String × Value)}
    {t : Shorter s} (h : readMembers depth s = .ok (members, t)) :
    ∀ m ∈ members, m.2.IsDocument depth := by
  rw [readMembers] at h
  split at h
  · cases h
  · next name r hr _ =>
    split at h
    · cases h
    · next u hu _ =>
      have hlt : u.length < s.length := Remainder.lt_of_lt_lt hu hr
      dsimp only at h
      split at h
      · cases h
      · next v w hw hv =>
        have hfirst := isDocument_of_readValue hv
        split at h
        · cases h
        · cases h
          exact List.forall_mem_singleton.mpr hfirst
        · next x hx _ =>
          split at h
          · cases h
          · next y hy _ =>
            have hlt' : y.length < s.length := Remainder.lt_of_lt_lt hy
              (Remainder.lt_of_lt_lt hx (Remainder.lt_of_lt_lt hw hlt))
            obtain ⟨_, hothers, heq⟩ := exists_of_map_eq_ok h
            cases heq
            exact List.forall_mem_cons.mpr ⟨hfirst, isDocument_of_readMembers hothers⟩
termination_by (s.length, 0)

end

theorem isDocument_of_read {text : String} {v : Value} (h : read text = .ok v) :
    v.IsDocument depthLimit := by
  obtain ⟨rest, hread, _⟩ := exists_of_finish_eq_ok h
  obtain ⟨_, hvalue, heq⟩ := exists_of_map_eq_ok hread
  cases heq
  exact isDocument_of_readValue hvalue

end Specimen.Json
