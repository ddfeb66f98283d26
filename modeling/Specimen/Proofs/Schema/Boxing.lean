import Mathlib.Logic.Function.Iterate
import Specimen.Proofs.Schema.Representative

set_option autoImplicit false

/-! # Boxed types stand in lists

A type names a number by its boxed type exactly where the number is an element of a list. A part
of a type is what stands in some of its lists (`FieldType.part?`), so this can be said without
recursion: a part that is boxed stands in at least one list, and a number that is not boxed stands
in none (`FieldType.WellBoxed`).

Making a list of a type keeps this because the type is boxed first, and redirecting references
keeps it because it changes no other part; so merging does (`wellBoxed_merge_iterate`).
-/

namespace Specimen.Schema

namespace FieldType

/-- The types of numbers. -/
def numbers : List FieldType := [.integer, .long, .double]

/-- The types that stand for numbers where only references are allowed. -/
def boxedNumbers : List FieldType := [.boxedInteger, .boxedLong, .boxedDouble]

/-- The part of a type that stands in the given number of its lists. -/
def part? : Nat → FieldType → Option FieldType
  | 0, t => some t
  | depth + 1, .listOf item => part? depth item
  | _ + 1, _ => none

/-- Numbers are boxed directly under a list and nowhere else. -/
def WellBoxed (t : FieldType) : Prop :=
  ∀ depth part, t.part? depth = some part →
    (part ∈ boxedNumbers → 0 < depth) ∧ (part ∈ numbers → depth = 0)

variable {t : FieldType}

theorem part?_succ_eq_none (h : t.isList = false) (depth : Nat) : t.part? (depth + 1) = none := by
  cases t <;> first | rfl | cases h

/-- A type is a list exactly if one of its parts is. -/
theorem isList_iff_exists_part :
    t.isList = true ↔ ∃ depth item, t.part? depth = some (.listOf item) := by
  constructor
  · intro h
    cases t with
    | listOf item => exact ⟨0, item, rfl⟩
    | _ => cases h
  · rintro ⟨depth, item, hpart⟩
    by_contra hlist
    rw [Bool.not_eq_true] at hlist
    cases depth with
    | zero =>
        obtain rfl : t = .listOf item := Option.some.inj hpart
        cases hlist
    | succ depth =>
        rw [part?_succ_eq_none hlist] at hpart
        cases hpart

theorem boxed_not_mem_numbers (t : FieldType) : t.boxed ∉ numbers := by
  cases t <;> simp [boxed, numbers]

/-- Boxing changes nothing inside of a list. -/
theorem part?_succ_boxed (t : FieldType) (depth : Nat) :
    t.boxed.part? (depth + 1) = t.part? (depth + 1) := by
  cases t <;> rfl

/-- A type that is neither a list nor boxed. -/
theorem wellBoxed_of_not_list (hlist : t.isList = false) (hboxed : t ∉ boxedNumbers) :
    t.WellBoxed := by
  intro depth part hpart
  cases depth with
  | zero =>
      obtain rfl : t = part := Option.some.inj hpart
      exact ⟨fun h => absurd h hboxed, fun _ => rfl⟩
  | succ depth =>
      rw [part?_succ_eq_none hlist] at hpart
      cases hpart

/-- Listing boxed elements boxes numbers directly under the list. -/
theorem WellBoxed.listOf_boxed (h : t.WellBoxed) : (listOf t.boxed).WellBoxed := by
  intro depth part hpart
  rcases depth with _ | _ | depth
  · obtain rfl : listOf t.boxed = part := Option.some.inj hpart
    simp [boxedNumbers, numbers]
  · obtain rfl : t.boxed = part := Option.some.inj hpart
    exact ⟨fun _ => Nat.one_pos, fun hnumber => absurd hnumber (boxed_not_mem_numbers t)⟩
  · -- what stands in a list of `t` is a part of `t` itself
    have hinner : t.part? (depth + 1) = some part := (part?_succ_boxed t depth).symm.trans hpart
    refine ⟨fun _ => Nat.succ_pos _, fun hnumber => ?_⟩
    exact absurd ((h _ _ hinner).2 hnumber) (Nat.succ_ne_zero depth)

/-! ## Redirected references -/

theorem part?_mapRefs (f : String → String) (t : FieldType) (depth : Nat) :
    (t.mapRefs f).part? depth = (t.part? depth).map (mapRefs f) := by
  induction depth generalizing t with
  | zero => rfl
  | succ depth ih =>
      cases t with
      | listOf item => exact ih item
      | _ => rfl

theorem mapRefs_mem_numbers {f : String → String} : t.mapRefs f ∈ numbers ↔ t ∈ numbers := by
  cases t <;> simp [mapRefs, numbers]

theorem mapRefs_mem_boxedNumbers {f : String → String} :
    t.mapRefs f ∈ boxedNumbers ↔ t ∈ boxedNumbers := by
  cases t <;> simp [mapRefs, boxedNumbers]

theorem WellBoxed.mapRefs (h : t.WellBoxed) (f : String → String) : (t.mapRefs f).WellBoxed := by
  intro depth part hpart
  rw [part?_mapRefs] at hpart
  obtain ⟨inner, hinner, rfl⟩ := Option.map_eq_some_iff.mp hpart
  rw [mapRefs_mem_numbers, mapRefs_mem_boxedNumbers]
  exact h depth inner hinner

end FieldType

/-! ## Classes -/

/-- All types of fields are well boxed. -/
def ClassDefinition.WellBoxed (c : ClassDefinition) : Prop :=
  ∀ entry ∈ c.fields.toList, entry.2.WellBoxed

/-- All types of fields of registered classes are well boxed. -/
def Registry.WellBoxed (r : Registry) : Prop := ∀ c ∈ r.toList, c.WellBoxed

theorem Registry.Represents.wellBoxed {r r' : Registry} {f : String → String}
    (h : r.Represents r' f) (hr : r.WellBoxed) : r'.WellBoxed := by
  intro c' hc' entry hentry
  obtain ⟨c, hc, _, rfl⟩ := h.mem_iff.mp hc'
  obtain ⟨p, hp, rfl⟩ := List.mem_map.mp hentry
  exact (hr c hc p hp).mapRefs f

/-- **Merging moves no type into or out of a list**, however often it is done. -/
theorem wellBoxed_merge_iterate (n : Nat) (s : Schema) :
    (s.root.WellBoxed → (merge^[n] s).root.WellBoxed) ∧
      (s.registry.WellBoxed → (merge^[n] s).registry.WellBoxed) := by
  induction n generalizing s with
  | zero => exact ⟨id, id⟩
  | succ n ih =>
      obtain ⟨ihRoot, ihRegistry⟩ := ih s.merge
      rw [Function.iterate_succ_apply]
      refine ⟨fun h => ihRoot ?_, fun h => ihRegistry (s.represents_merge.wellBoxed h)⟩
      rw [s.root_merge]
      exact h.mapRefs s.representative

end Specimen.Schema
