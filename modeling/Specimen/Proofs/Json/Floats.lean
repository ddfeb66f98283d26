import Specimen.Json.Pointer
import Specimen.Proofs.Json.Rereading

set_option autoImplicit false

/-! # The binary64 numbers in a value

The value with each of its binary64 numbers read back (`Value.reread?`), which is the value itself
if each of them is read back as it is (`Value.reread?_eq_some_self`). The part of a document's value
that a pointer selects can stand in a document, too, and has no other numbers
(`Value.IsDocument.pointer?`).
-/

namespace Specimen.Json

open Specimen.Number

/-! ## Values that are read back -/

mutual

/-- The value with its binary64 numbers read back. -/
def Value.reread? : Value → Option Value
  | .number (.float x) => (Json.reread? x).map fun y => .number (.float y)
  | .array items => (rereadItems? items).map .array
  | .object members => (rereadMembers? members).map .object
  | v => some v

/-- The elements of an array, read back. -/
def rereadItems? : List Value → Option (List Value)
  | [] => some []
  | v :: vs => v.reread?.bind fun w => (rereadItems? vs).map (w :: ·)

/-- The members of an object, their values read back. -/
def rereadMembers? : List (String × Value) → Option (List (String × Value))
  | [] => some []
  | (name, v) :: ms => v.reread?.bind fun w => (rereadMembers? ms).map ((name, w) :: ·)

end

mutual

/-- The binary64 numbers in a value. -/
def Value.floats : Value → List Binary64
  | .number (.float x) => [x]
  | .array items => itemFloats items
  | .object members => memberFloats members
  | _ => []

/-- The binary64 numbers in the elements of an array. -/
def itemFloats : List Value → List Binary64
  | [] => []
  | v :: vs => v.floats ++ itemFloats vs

/-- The binary64 numbers in the members of an object. -/
def memberFloats : List (String × Value) → List Binary64
  | [] => []
  | (_, v) :: ms => v.floats ++ memberFloats ms

end

theorem rereadItems?_cons (v : Value) (vs : List Value) :
    rereadItems? (v :: vs) = v.reread?.bind fun w => (rereadItems? vs).map (w :: ·) := by
  rw [rereadItems?]

theorem rereadMembers?_cons (name : String) (v : Value) (ms : List (String × Value)) :
    rereadMembers? ((name, v) :: ms)
      = v.reread?.bind fun w => (rereadMembers? ms).map ((name, w) :: ·) := by
  rw [rereadMembers?]

theorem names_of_rereadMembers? {members members' : List (String × Value)}
    (h : rereadMembers? members = some members') :
    members'.map Prod.fst = members.map Prod.fst := by
  induction members generalizing members' with
  | nil =>
      cases h
      rfl
  | cons m ms ih =>
      obtain ⟨name, v⟩ := m
      rw [rereadMembers?_cons, Option.bind_eq_some_iff] at h
      obtain ⟨w, _, h⟩ := h
      obtain ⟨ms', hms, rfl⟩ := Option.map_eq_some_iff.mp h
      rw [List.map_cons, List.map_cons, ih hms]

mutual

/-- A value whose numbers are read back is read back. -/
theorem Value.reread?_eq_some_self {v : Value} (h : ∀ x ∈ v.floats, Json.reread? x = some x) :
    v.reread? = some v := by
  match v with
  | .null => rfl
  | .bool b => cases b <;> rfl
  | .number (.integer i) => rfl
  | .number (.float x) =>
      rw [Value.reread?, h x (by simp [Value.floats])]
      rfl
  | .text t => rfl
  | .array items =>
      rw [Value.floats] at h
      rw [Value.reread?, rereadItems?_eq_some_self h]
      rfl
  | .object members =>
      rw [Value.floats] at h
      rw [Value.reread?, rereadMembers?_eq_some_self h]
      rfl

theorem rereadItems?_eq_some_self {vs : List Value} (h : ∀ x ∈ itemFloats vs, reread? x = some x) :
    rereadItems? vs = some vs := by
  match vs with
  | [] => rfl
  | v :: vs =>
      rw [itemFloats, List.forall_mem_append] at h
      rw [rereadItems?, Value.reread?_eq_some_self h.1, rereadItems?_eq_some_self h.2]
      rfl

theorem rereadMembers?_eq_some_self {ms : List (String × Value)}
    (h : ∀ x ∈ memberFloats ms, reread? x = some x) : rereadMembers? ms = some ms := by
  match ms with
  | [] => rfl
  | (name, v) :: ms =>
      rw [memberFloats, List.forall_mem_append] at h
      rw [rereadMembers?, Value.reread?_eq_some_self h.1, rereadMembers?_eq_some_self h.2]
      rfl

end

/-! ## Parts of a value -/

theorem itemFloats_eq (items : List Value) : itemFloats items = items.flatMap Value.floats := by
  induction items with
  | nil => rfl
  | cons v vs ih => rw [itemFloats, ih, List.flatMap_cons]

theorem memberFloats_eq (members : List (String × Value)) :
    memberFloats members = members.flatMap fun m => m.2.floats := by
  induction members with
  | nil => rfl
  | cons m ms ih => rw [memberFloats, ih, List.flatMap_cons]

theorem Value.IsDocument.rank_le_of_mem_floats {depth : Nat} {v : Value} (hv : v.IsDocument depth)
    {x : Binary64} (hx : x ∈ v.floats) : x.rank ≤ Binary64.infinityRank := by
  induction hv with
  | number hn =>
      cases hn with
      | integer _ _ => simp [Value.floats] at hx
      | float hrank =>
          rw [Value.floats, List.mem_singleton] at hx
          exact hx ▸ hrank
  | array _ _ ih =>
      rw [Value.floats, itemFloats_eq, List.mem_flatMap] at hx
      obtain ⟨w, hw, hx⟩ := hx
      exact ih w hw hx
  | object _ _ _ ih =>
      rw [Value.floats, memberFloats_eq, List.mem_flatMap] at hx
      obtain ⟨m, hm, hx⟩ := hx
      exact ih m hm hx
  | _ => simp [Value.floats] at hx

/-- A value that may stand in a document may stand less deep in it, too. -/
theorem Value.IsDocument.mono {depth depth' : Nat} {v : Value} (hv : v.IsDocument depth)
    (h : depth ≤ depth') : v.IsDocument depth' := by
  induction hv generalizing depth' with
  | null => exact .null
  | bool b => exact .bool b
  | number hx => exact .number hx
  | text t => exact .text t
  | array hdepth _ ih =>
      exact .array (hdepth.trans_le h) fun w hw => ih w hw (Nat.sub_le_sub_right h 1)
  | object hdepth hnames _ ih =>
      exact .object (hdepth.trans_le h) hnames fun m hm => ih m hm (Nat.sub_le_sub_right h 1)

/-- What a token selects may stand in the document, and its numbers are numbers of the value. -/
theorem Value.IsDocument.step? {depth : Nat} {v w : Value} {token : List Char}
    (hv : v.IsDocument depth) (h : v.step? token = some w) :
    w.IsDocument depth ∧ ∀ x ∈ w.floats, x ∈ v.floats := by
  cases hv with
  | array hdepth hitems =>
      obtain ⟨i, _, hi⟩ := Option.bind_eq_some_iff.mp h
      have hmem := List.mem_of_getElem? hi
      refine ⟨(hitems w hmem).mono (Nat.sub_le _ _), fun x hx => ?_⟩
      rw [Value.floats, itemFloats_eq]
      exact List.mem_flatMap.mpr ⟨w, hmem, hx⟩
  | @object _ members hdepth hnames hmembers =>
      obtain ⟨front, back, hsplit, _⟩ := List.lookup_eq_some_iff.mp h
      have hmem : (String.ofList token, w) ∈ members := by simp [hsplit]
      refine ⟨(hmembers _ hmem).mono (Nat.sub_le _ _), fun x hx => ?_⟩
      rw [Value.floats, memberFloats_eq]
      exact List.mem_flatMap.mpr ⟨_, hmem, hx⟩
  | _ => cases h

theorem Value.IsDocument.follow? {depth : Nat} {v w : Value} {tokens : List (List Char)}
    (hv : v.IsDocument depth) (h : v.follow? tokens = some w) :
    w.IsDocument depth ∧ ∀ x ∈ w.floats, x ∈ v.floats := by
  induction tokens generalizing v with
  | nil =>
      cases h
      exact ⟨hv, fun _ hx => hx⟩
  | cons token tokens ih =>
      rw [Value.follow?, List.foldlM_cons] at h
      obtain ⟨part, hpart, hfollow⟩ := Option.bind_eq_some_iff.mp h
      obtain ⟨hdocument, hfloats⟩ := hv.step? hpart
      obtain ⟨hw, hfloats'⟩ := ih hdocument hfollow
      exact ⟨hw, fun x hx => hfloats x (hfloats' x hx)⟩

theorem Value.IsDocument.pointer? {depth : Nat} {v w : Value} {pointer : String}
    (hv : v.IsDocument depth) (h : v.pointer? pointer = some w) :
    w.IsDocument depth ∧ ∀ x ∈ w.floats, x ∈ v.floats := by
  obtain ⟨tokens, _, hfollow⟩ := Option.bind_eq_some_iff.mp h
  exact hv.follow? hfollow

end Specimen.Json
