import Mathlib.Data.List.Basic
import Mathlib.Data.List.Induction
import Specimen.Schema.Keyed

set_option autoImplicit false

/-! # Insertion into keyed lists

What inserting one entry, or a list of entries one by one, does to the list of entries:
`toList_insert` says that an entry takes the place of the one with its key or goes to the end,
and `toList_ofList` that entries inserted into nothing end up in the order in which their keys
first occur, each key with the entry that came last.
-/

namespace Specimen.Schema.Keyed

variable {α : Type} {key : α → String}

/-- The entries of a list with `x` in place of the ones with its key, or behind all others if
there are none. -/
def replaceOrAppend (key : α → String) (xs : List α) (x : α) : List α :=
  if key x ∈ xs.map key then xs.map (fun y => if key y = key x then x else y) else xs ++ [x]

/-- Keyed lists with the same entries are equal. -/
theorem eq_of_toList_eq {m n : Keyed α key} (h : m.toList = n.toList) : m = n := by
  cases m
  cases n
  simpa using h

/-- An entry is found under its own key and no other. -/
theorem find?_eq_some_iff {m : Keyed α key} {k : String} {x : α} :
    m.find? k = some x ↔ x ∈ m.toList ∧ key x = k := by
  obtain ⟨xs, hxs⟩ := m
  simp only [find?]
  induction xs with
  | nil => simp
  | cons y ys ih =>
      simp only [List.map_cons, List.nodup_cons, List.mem_map, not_exists, not_and] at hxs
      by_cases hy : key y = k
      · simp only [List.find?_cons_of_pos (p := fun x => key x == k) (by simpa using hy),
          Option.some.injEq, List.mem_cons]
        -- the key is that of `y`, so no entry behind `y` has it
        constructor
        · rintro rfl
          exact ⟨Or.inl rfl, hy⟩
        · rintro ⟨rfl | hx, hk⟩
          · rfl
          · exact absurd (hk.trans hy.symm) (hxs.1 x hx)
      · rw [List.find?_cons_of_neg (by simpa using hy), ih hxs.2, List.mem_cons]
        constructor
        · rintro ⟨hx, hk⟩
          exact ⟨Or.inr hx, hk⟩
        · rintro ⟨rfl | hx, hk⟩
          · exact absurd hk hy
          · exact ⟨hx, hk⟩

/-- Nothing is found under a key exactly when no entry has it. -/
theorem find?_eq_none_iff {m : Keyed α key} {k : String} : m.find? k = none ↔ k ∉ m.keys := by
  rw [← contains_eq_true_iff, contains, Option.not_isSome_iff_eq_none]

/-- Every entry's key is a key. -/
theorem key_mem_keys {m : Keyed α key} {x : α} (hx : x ∈ m.toList) : key x ∈ m.keys :=
  List.mem_map_of_mem hx

/-! ## One entry -/

/-- Inserting an entry adds its key to the keys. -/
theorem mem_keys_insert {m : Keyed α key} {x : α} {k : String} :
    k ∈ (m.insert x).keys ↔ k = key x ∨ k ∈ m.keys := mem_keys_upsert

/-- The entries after an insertion are the inserted one and some of those before it. -/
theorem mem_insert {m : Keyed α key} {x y : α} (h : y ∈ (m.insert x).toList) :
    y = x ∨ y ∈ m.toList := by
  have hy : (m.insert x).find? (key y) = some y := find?_eq_some_iff.mpr ⟨h, rfl⟩
  by_cases hk : key x = key y
  · rw [← hk, find?_insert_self] at hy
    exact Or.inl (Option.some.inj hy).symm
  · rw [find?_insert_of_ne m hk] at hy
    exact Or.inr (find?_eq_some_iff.mp hy).1

theorem upsert_eq_append {x : α} {xs : List α} (h : key x ∉ xs.map key) :
    upsert key x xs = xs ++ [x] := by
  induction xs with
  | nil => rfl
  | cons y ys ih =>
      simp only [List.map_cons, List.mem_cons, not_or] at h
      rw [upsert, if_neg (Ne.symm h.1), ih h.2, List.cons_append]

theorem upsert_eq_map {x : α} {xs : List α} (hxs : (xs.map key).Nodup) (h : key x ∈ xs.map key) :
    upsert key x xs = xs.map (fun y => if key y = key x then x else y) := by
  induction xs with
  | nil => simp at h
  | cons y ys ih =>
      simp only [List.map_cons, List.nodup_cons, List.mem_cons] at hxs h
      rw [upsert, List.map_cons]
      by_cases hy : key y = key x
      · -- no later entry has the key again, so the rest of the list stays
        have hys : ∀ z ∈ ys, key z ≠ key x := by
          intro z hz hzx
          exact hxs.1 (List.mem_map.mpr ⟨z, hz, hzx.trans hy.symm⟩)
        have hmap : ys.map (fun z => if key z = key x then x else z) = ys.map id :=
          List.map_congr_left (fun z hz => if_neg (hys z hz))
        rw [if_pos hy, if_pos hy, hmap, List.map_id]
      · rw [if_neg hy, if_neg hy, ih hxs.2 (h.resolve_left (Ne.symm hy))]

/-- **Insertion replaces in place or appends.** -/
theorem toList_insert (m : Keyed α key) (x : α) :
    (m.insert x).toList = replaceOrAppend key m.toList x := by
  show upsert key x m.toList = _
  unfold replaceOrAppend
  by_cases h : key x ∈ m.toList.map key
  · rw [if_pos h, upsert_eq_map m.nodup h]
  · rw [if_neg h, upsert_eq_append h]

/-! ## Entries one by one -/

/-- The last entry of a list with a given key. -/
def lastWith (key : α → String) (xs : List α) (k : String) : Option α :=
  xs.reverse.find? (fun x => key x == k)

/-- The entries of a list in the order in which their keys first occur, and of the entries with
one key the last. -/
def settled (key : α → String) (xs : List α) : List α :=
  (xs.map key).eraseDups.filterMap (lastWith key xs)

theorem lastWith_append_singleton (xs : List α) (x : α) (k : String) :
    lastWith key (xs ++ [x]) k = if key x = k then some x else lastWith key xs k := by
  rw [lastWith, List.reverse_append, List.reverse_singleton, List.singleton_append]
  by_cases hk : key x = k
  · rw [if_pos hk, List.find?_cons_of_pos (by simpa using hk)]
  · rw [if_neg hk, List.find?_cons_of_neg (by simpa using hk)]
    rfl

theorem lastWith_append (xs ys : List α) (k : String) :
    lastWith key (xs ++ ys) k = (lastWith key ys k).or (lastWith key xs k) := by
  rw [lastWith, List.reverse_append, List.find?_append]
  rfl

/-- The last entry with a key is one of the entries and has the key. -/
theorem of_lastWith_eq_some {xs : List α} {k : String} {x : α} (h : lastWith key xs k = some x) :
    x ∈ xs ∧ key x = k :=
  ⟨List.mem_reverse.mp (List.mem_of_find?_eq_some h), by simpa using List.find?_some h⟩

theorem lastWith_isSome {xs : List α} {k : String} (hk : k ∈ xs.map key) :
    ∃ y, lastWith key xs k = some y ∧ key y = k := by
  obtain ⟨x, hx, hxk⟩ := List.mem_map.mp hk
  cases h : lastWith key xs k with
  | none =>
      have hno := List.find?_eq_none.mp h x (List.mem_reverse.mpr hx)
      simp [hxk] at hno
  | some y => exact ⟨y, rfl, by simpa using List.find?_some h⟩

/-- The keys of the settled entries are the distinct keys, in the order of their first
occurrences. -/
theorem keys_settled (xs : List α) : (settled key xs).map key = (xs.map key).eraseDups := by
  have hlast : ∀ k ∈ (xs.map key).eraseDups, (lastWith key xs k).map key = some k := by
    intro k hk
    obtain ⟨y, hy, hyk⟩ := lastWith_isSome (List.mem_eraseDups.mp hk)
    rw [hy, Option.map_some, hyk]
  rw [settled, List.map_filterMap, List.filterMap_congr hlast, List.filterMap_some]

/-- The settled entries are those that come last with their keys. -/
theorem mem_settled {xs : List α} {x : α} :
    x ∈ settled key xs ↔ lastWith key xs (key x) = some x := by
  rw [settled, List.mem_filterMap]
  constructor
  · rintro ⟨k, _, hk⟩
    obtain ⟨_, rfl⟩ := of_lastWith_eq_some hk
    exact hk
  · intro h
    have hx := (of_lastWith_eq_some h).1
    exact ⟨key x, List.mem_eraseDups.mpr (List.mem_map_of_mem hx), h⟩

theorem eraseDups_append_singleton (ks : List String) (k : String) :
    (ks ++ [k]).eraseDups = if k ∈ ks then ks.eraseDups else ks.eraseDups ++ [k] := by
  rw [List.eraseDups_append]
  by_cases hk : k ∈ ks
  · simp [List.removeAll, hk]
  · simp [List.removeAll, List.eraseDups_cons, hk]

/-- One more entry replaces the settled entry with its key or comes last. -/
theorem settled_append_singleton (xs : List α) (x : α) :
    settled key (xs ++ [x]) = replaceOrAppend key (settled key xs) x := by
  unfold replaceOrAppend
  rw [keys_settled, settled, List.map_append, List.map_singleton, eraseDups_append_singleton]
  by_cases hx : key x ∈ xs.map key
  · -- the order of the keys stays, and only under the key of `x` is the last entry another one
    rw [if_pos hx, if_pos (List.mem_eraseDups.mpr hx), settled, List.map_filterMap]
    refine List.filterMap_congr (fun k hk => ?_)
    obtain ⟨y, hy, hyk⟩ := lastWith_isSome (List.mem_eraseDups.mp hk)
    rw [lastWith_append_singleton, hy, Option.map_some, hyk]
    by_cases hxk : key x = k
    · rw [if_pos hxk, if_pos hxk.symm]
    · rw [if_neg hxk, if_neg (Ne.symm hxk)]
  · -- the key of `x` is new and goes to the end, and under all others the last entry stays
    have hold : ∀ k ∈ (xs.map key).eraseDups, lastWith key (xs ++ [x]) k = lastWith key xs k := by
      intro k hk
      have hne : key x ≠ k := by
        rintro rfl
        exact hx (List.mem_eraseDups.mp hk)
      rw [lastWith_append_singleton, if_neg hne]
    rw [if_neg hx, if_neg (mt List.mem_eraseDups.mp hx), List.filterMap_append,
      List.filterMap_congr hold, settled]
    simp [lastWith_append_singleton]

theorem toList_foldl_insert (m : Keyed α key) (xs : List α) :
    (xs.foldl insert m).toList = xs.foldl (replaceOrAppend key) m.toList := by
  induction xs generalizing m with
  | nil => rfl
  | cons x xs ih => rw [List.foldl_cons, List.foldl_cons, ih, toList_insert]

/-- Under each key the entry that was inserted last is found. -/
theorem find?_foldl_insert (m : Keyed α key) (xs : List α) (k : String) :
    (xs.foldl insert m).find? k = (lastWith key xs k).or (m.find? k) := by
  induction xs using List.reverseRecOn with
  | nil => rfl
  | append_singleton xs x ih =>
      rw [List.foldl_append, List.foldl_cons, List.foldl_nil, lastWith_append_singleton]
      by_cases hk : key x = k
      · rw [if_pos hk, ← hk, find?_insert_self, Option.some_or]
      · rw [if_neg hk, find?_insert_of_ne _ hk, ih]

/-- If entries with one key are one entry, each of them is found after all are inserted. -/
theorem find?_foldl_insert_of_mem (m : Keyed α key) {xs : List α}
    (hxs : ∀ x ∈ xs, ∀ y ∈ xs, key x = key y → x = y) {x : α} (hx : x ∈ xs) :
    (xs.foldl insert m).find? (key x) = some x := by
  obtain ⟨y, hy, hyx⟩ := lastWith_isSome (List.mem_map_of_mem (f := key) hx)
  have hyxs := (of_lastWith_eq_some hy).1
  rw [find?_foldl_insert, hy, hxs x hx y hyxs hyx.symm, Option.some_or]

/-- **Entries inserted one by one settle**: the first occurrence of a key gives the place, the
last one the entry. -/
theorem toList_ofList (xs : List α) : (ofList xs : Keyed α key).toList = settled key xs := by
  rw [ofList, toList_foldl_insert]
  induction xs using List.reverseRecOn with
  | nil => rfl
  | append_singleton xs x ih =>
      rw [List.foldl_append, List.foldl_cons, List.foldl_nil, ih, settled_append_singleton]

/-- Entries with distinct keys are settled. -/
theorem settled_eq_self {xs : List α} (h : (xs.map key).Nodup) : settled key xs = xs := by
  induction xs using List.reverseRecOn with
  | nil => rfl
  | append_singleton xs x ih =>
      rw [List.map_append, List.map_singleton, List.nodup_append] at h
      obtain ⟨hxs, _, hne⟩ := h
      have hx : key x ∉ xs.map key := fun hx => hne _ hx _ (List.mem_singleton_self _) rfl
      rw [settled_append_singleton, ih hxs, replaceOrAppend, if_neg hx]

/-- A repeated key keeps its place and gets the last entry. -/
example : settled Prod.fst [("a", 1), ("b", 2), ("a", 3)] = [("a", 3), ("b", 2)] := by decide

theorem mem_keys_foldl_insert {m : Keyed α key} {xs : List α} {k : String} :
    k ∈ (xs.foldl insert m).keys ↔ k ∈ xs.map key ∨ k ∈ m.keys := by
  induction xs generalizing m with
  | nil => simp
  | cons x xs ih =>
      rw [List.foldl_cons, ih, mem_keys_insert, List.map_cons, List.mem_cons]
      exact or_left_comm.trans or_assoc.symm

end Specimen.Schema.Keyed
