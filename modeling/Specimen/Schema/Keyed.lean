set_option autoImplicit false

/-! # Lists of keyed entries

A list whose entries have pairwise distinct keys. Inserting an entry replaces the one with the
same key in its place and puts an entry with a new key at the end, so the order of the list is
the order in which the keys were first inserted.
-/

namespace Specimen.Schema

/-- A list of entries with pairwise distinct keys. -/
structure Keyed (α : Type) (key : α → String) where
  /-- The entries in the order of their keys' first insertion. -/
  toList : List α
  /-- No two entries have the same key. -/
  nodup : (toList.map key).Nodup

/-- Two lists of keyed entries are equal if their entries are. -/
instance (α : Type) (key : α → String) [DecidableEq α] : DecidableEq (Keyed α key) := fun a b =>
  decidable_of_iff (a.toList = b.toList)
    ⟨fun h => by cases a; cases b; simp_all, fun h => by rw [h]⟩

namespace Keyed

variable {α : Type} {key : α → String}

/-- No entries. -/
def empty : Keyed α key := ⟨[], List.nodup_nil⟩

/-- The entry with a given key. -/
def find? (m : Keyed α key) (k : String) : Option α := m.toList.find? fun x => key x == k

/-- An entry with this key is there. -/
def contains (m : Keyed α key) (k : String) : Bool := (m.find? k).isSome

/-- The keys, in order. -/
def keys (m : Keyed α key) : List String := m.toList.map key

/-- The number of entries. -/
def size (m : Keyed α key) : Nat := m.toList.length

/-- The list `xs` with `x` in place of the entry with its key, or at the end. -/
def upsert (key : α → String) (x : α) : List α → List α
  | [] => [x]
  | y :: ys => if key y = key x then x :: ys else y :: upsert key x ys

theorem mem_keys_upsert {x : α} {xs : List α} {k : String} :
    k ∈ (upsert key x xs).map key ↔ k = key x ∨ k ∈ xs.map key := by
  induction xs with
  | nil => simp [upsert]
  | cons y ys ih =>
    unfold upsert
    split
    · rename_i h
      simp [h]
    · simp only [List.map_cons, List.mem_cons, ih]
      exact or_left_comm

theorem nodup_upsert {x : α} {xs : List α} (h : (xs.map key).Nodup) :
    ((upsert key x xs).map key).Nodup := by
  induction xs with
  | nil => simp [upsert]
  | cons y ys ih =>
    simp only [List.map_cons, List.nodup_cons] at h
    unfold upsert
    split
    · rename_i hxy
      simpa [hxy ▸ h.1] using h.2
    · rename_i hxy
      simp only [List.map_cons, List.nodup_cons, mem_keys_upsert, not_or]
      exact ⟨⟨hxy, h.1⟩, ih h.2⟩

/-- Inserts an entry: it replaces the entry with the same key or goes to the end. -/
def insert (m : Keyed α key) (x : α) : Keyed α key :=
  ⟨upsert key x m.toList, nodup_upsert m.nodup⟩

/-- The entries of a list, inserted one by one. -/
def ofList (xs : List α) : Keyed α key := xs.foldl insert empty

/-- The entries that satisfy a condition. -/
def filter (m : Keyed α key) (p : α → Bool) : Keyed α key :=
  ⟨m.toList.filter p, m.nodup.sublist (List.filter_sublist.map key)⟩

/-- The entries, each changed by a function that keeps its key. -/
def mapEntries (m : Keyed α key) (f : α → α) (h : ∀ x, key (f x) = key x) : Keyed α key :=
  ⟨m.toList.map f, by
    have : (key ∘ f) = key := funext h
    simpa [List.map_map, this] using m.nodup⟩

/-- An inserted entry is found under its key. -/
theorem find?_insert_self (m : Keyed α key) (x : α) : (m.insert x).find? (key x) = some x := by
  obtain ⟨xs, hx⟩ := m
  simp only [insert, find?]
  clear hx
  induction xs with
  | nil => simp [upsert]
  | cons y ys ih =>
    unfold upsert
    split
    · simp
    · rename_i h
      simp [h, ih]

/-- Inserting an entry does not change what is found under another key. -/
theorem find?_insert_of_ne (m : Keyed α key) {x : α} {k : String} (hk : key x ≠ k) :
    (m.insert x).find? k = m.find? k := by
  obtain ⟨xs, hx⟩ := m
  simp only [insert, find?]
  clear hx
  induction xs with
  | nil => simp [upsert, hk]
  | cons y ys ih =>
    unfold upsert
    split
    · rename_i h
      simp [h, hk]
    · simp only [List.find?_cons, ih]

/-- A key is there exactly when an entry is found under it. -/
theorem contains_eq_true_iff {m : Keyed α key} {k : String} :
    m.contains k = true ↔ k ∈ m.keys := by
  simp [contains, find?, keys, List.find?_isSome]

/-- The entries found under two lists' keys are the same. Their order does not count. -/
def sameEntries (m n : Keyed α key) (same : α → α → Bool) : Bool :=
  m.size == n.size && m.toList.all fun x =>
    match n.find? (key x) with
    | some y => same x y
    | none => false

end Keyed

end Specimen.Schema
