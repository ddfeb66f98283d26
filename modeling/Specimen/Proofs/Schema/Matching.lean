import Mathlib.Data.List.Forall2
import Specimen.Proofs.Schema.Representative

set_option autoImplicit false

/-! # Schemas that match position by position

Two schemas match if they have as many classes, in the same order and with the same fields in the
same order, and if the names of the classes and the types of the fields are related, position by
position (`Schema.Matches`). How names and how types are related is a parameter.

What builds registries is insertion, and insertion looks at nothing but keys. So it keeps matches
as long as entries with one key on one side have one key on the other side
(`Keyed.forall₂_foldl_insert`).
-/

namespace Specimen.Schema

/-! ## Insertion -/

namespace Keyed

variable {α β : Type} {key : α → String} {key' : β → String} {R : α → β → Prop}

/-- Related entries have the same key on one side exactly if they do on the other side. -/
def RespectsKeys (key : α → String) (key' : β → String) (R : α → β → Prop) : Prop :=
  ∀ ⦃x y⦄, R x y → ∀ ⦃x' y'⦄, R x' y' → (key x = key x' ↔ key' y = key' y')

theorem forall₂_upsert (hR : RespectsKeys key key' R) {x : α} {y : β} (hxy : R x y) {xs : List α}
    {ys : List β} (h : List.Forall₂ R xs ys) :
    List.Forall₂ R (upsert key x xs) (upsert key' y ys) := by
  induction h with
  | nil => exact .cons hxy .nil
  | @cons x' y' xs ys hxy' hrest ih =>
      have hkeys : key x' = key x ↔ key' y' = key' y := hR hxy' hxy
      rw [upsert, upsert]
      by_cases hx : key x' = key x
      · rw [if_pos hx, if_pos (hkeys.mp hx)]
        exact .cons hxy hrest
      · rw [if_neg hx, if_neg (mt hkeys.mpr hx)]
        exact .cons hxy' ih

/-- **Insertion keeps matches**: related entries replace related entries or go to the end on both
sides. -/
theorem forall₂_foldl_insert (hR : RespectsKeys key key' R) {xs : List α} {ys : List β}
    (h : List.Forall₂ R xs ys) {m : Keyed α key} {n : Keyed β key'}
    (hmn : List.Forall₂ R m.toList n.toList) :
    List.Forall₂ R (xs.foldl insert m).toList (ys.foldl insert n).toList := by
  induction h generalizing m n with
  | nil => exact hmn
  | cons hxy _ ih => exact ih (forall₂_upsert hR hxy hmn)

theorem forall₂_settled (hR : RespectsKeys key key' R) {xs : List α} {ys : List β}
    (h : List.Forall₂ R xs ys) : List.Forall₂ R (settled key xs) (settled key' ys) := by
  rw [← toList_ofList, ← toList_ofList]
  exact forall₂_foldl_insert hR h .nil

end Keyed

/-! ## Classes and schemas -/

/-- Two lists of fields have the same names, position by position, and related types. -/
def MatchingFields (T : FieldType → FieldType → Prop) :
    List (String × FieldType) → List (String × FieldType) → Prop :=
  List.Forall₂ fun p q => p.1 = q.1 ∧ T p.2 q.2

/-- Two classes have related names and matching fields. -/
structure ClassDefinition.Matches (N : String → String → Prop) (T : FieldType → FieldType → Prop)
    (c d : ClassDefinition) : Prop where
  name : N c.qualifiedName d.qualifiedName
  fields : MatchingFields T c.signature d.signature

/-- Two schemas have related root types and matching classes, position by position. -/
structure Matches (N : String → String → Prop) (T : FieldType → FieldType → Prop)
    (s s' : Schema) : Prop where
  root : T s.root s'.root
  classes : List.Forall₂ (ClassDefinition.Matches N T) s.registry.toList s'.registry.toList

section

variable {N N' : String → String → Prop} {T : FieldType → FieldType → Prop}

theorem ClassDefinition.Matches.mono {c d : ClassDefinition} (h : c.Matches N T d)
    (hN : ∀ m n, N m n → N' m n) : c.Matches N' T d :=
  ⟨hN _ _ h.name, h.fields⟩

theorem Matches.mono {s s' : Schema} (h : s.Matches N T s') (hN : ∀ m n, N m n → N' m n) :
    s.Matches N' T s' :=
  ⟨h.root, h.classes.imp fun _ _ hcd => hcd.mono hN⟩

/-- Fields are told apart by their names. -/
theorem respectsKeys_fields :
    Keyed.RespectsKeys Prod.fst Prod.fst
      fun p q : String × FieldType => p.1 = q.1 ∧ T p.2 q.2 := by
  intro p q hpq p' q' hpq'
  rw [hpq.1, hpq'.1]

/-- Names that are related one to one tell classes apart. -/
theorem respectsKeys_classes (hN : Relator.BiUnique N) :
    Keyed.RespectsKeys ClassDefinition.qualifiedName ClassDefinition.qualifiedName
      (ClassDefinition.Matches N T) := by
  intro c d hcd c' d' hcd'
  exact Relator.rel_eq hN hcd.name hcd'.name

/-- Fields match themselves if types are related to themselves only. -/
theorem MatchingFields.eq {fs gs : List (String × FieldType)}
    (h : MatchingFields (· = ·) fs gs) : fs = gs := by
  induction h with
  | nil => rfl
  | cons hpq _ ih => rw [Prod.ext hpq.1 hpq.2, ih]

/-- Schemas that match in all names and types are the same. -/
theorem Matches.eq {s s' : Schema} (h : s.Matches (· = ·) (· = ·) s') : s = s' := by
  have hlist : s.registry.toList = s'.registry.toList := by
    rw [← List.forall₂_eq_eq_eq]
    exact h.classes.imp fun c d hcd => ClassDefinition.eq_of_signature_eq hcd.name hcd.fields.eq
  have hregistry : s.registry = s'.registry := Keyed.eq_of_toList_eq hlist
  cases s
  cases s'
  exact congrArg₂ Schema.mk h.root hregistry

end

end Specimen.Schema
