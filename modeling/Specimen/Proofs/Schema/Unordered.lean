import Mathlib.Data.Multiset.Defs
import Specimen.Proofs.Schema.Insertion
import Specimen.Schema.Registry

set_option autoImplicit false

/-! # Classes regardless of order

Registries are compared by looking up each class of one of them in the other one, and classes by
looking up each field. What such a comparison comes to is said without lookups: a class is its name
with the multiset of its fields (`ClassDefinition.content`), and registries whose classes have the
same contents, in whatever order, are compared as the same (`sameUpToOrder_of_sameContents`).
-/

namespace Specimen.Schema

/-- Keyed lists whose entries have the same contents, in whatever order, have the same entries, if
contents determine keys and entries with the same contents count as the same. -/
theorem Keyed.sameEntries_of_perm {α γ : Type} {key : α → String} {content : α → γ}
    {same : α → α → Bool} (hkey : ∀ x y, content x = content y → key x = key y)
    (hsame : ∀ x y, content x = content y → same x y = true) {m n : Keyed α key}
    (h : (m.toList.map content).Perm (n.toList.map content)) : m.sameEntries n same = true := by
  have hsize : m.size = n.size := by simpa [size] using h.length_eq
  unfold sameEntries
  rw [hsize, beq_self_eq_true, Bool.true_and, List.all_eq_true]
  intro x hx
  obtain ⟨y, hy, hyx⟩ := List.mem_map.mp (h.mem_iff.mp (List.mem_map_of_mem hx))
  have hfind : n.find? (key x) = some y := find?_eq_some_iff.mpr ⟨hy, hkey y x hyx⟩
  rw [hfind]
  exact hsame x y hyx.symm

/-- The name of a class and its fields, regardless of their order. -/
def ClassDefinition.content (c : ClassDefinition) : String × Multiset (String × FieldType) :=
  (c.qualifiedName, c.fields.toList)

/-- Two lists of classes have the same contents, in whatever order. -/
def SameContents (cs ds : List ClassDefinition) : Prop :=
  (cs.map ClassDefinition.content).Perm (ds.map ClassDefinition.content)

theorem ClassDefinition.content_eq_iff {c d : ClassDefinition} :
    c.content = d.content ↔
      c.qualifiedName = d.qualifiedName ∧ c.fields.toList.Perm d.fields.toList := by
  rw [content, content, Prod.mk.injEq, Multiset.coe_eq_coe]

theorem ClassDefinition.sameUpToOrder_of_content_eq {c d : ClassDefinition}
    (h : c.content = d.content) : c.sameUpToOrder d = true := by
  obtain ⟨hname, hfields⟩ := content_eq_iff.mp h
  -- a field's content is the field itself
  have hperm : (c.fields.toList.map id).Perm (d.fields.toList.map id) := by
    rwa [List.map_id, List.map_id]
  rw [sameUpToOrder, hname, beq_self_eq_true, Bool.true_and]
  exact Keyed.sameEntries_of_perm (fun _ _ h => congrArg Prod.fst h)
    (fun _ _ h => beq_iff_eq.mpr h) hperm

namespace SameContents

variable {cs cs' ds ds' : List ClassDefinition}

theorem of_perm (h : cs.Perm ds) : SameContents cs ds := h.map _

theorem trans (h : SameContents cs cs') (h' : SameContents cs' ds) : SameContents cs ds :=
  List.Perm.trans h h'

theorem append (h : SameContents cs ds) (h' : SameContents cs' ds') :
    SameContents (cs ++ cs') (ds ++ ds') := by
  unfold SameContents
  rw [List.map_append, List.map_append]
  exact List.Perm.append h h'

theorem singleton {c d : ClassDefinition} (h : c.content = d.content) : SameContents [c] [d] := by
  rw [SameContents, List.map_singleton, List.map_singleton, h]

theorem names_perm (h : SameContents cs ds) :
    (cs.map ClassDefinition.qualifiedName).Perm (ds.map ClassDefinition.qualifiedName) := by
  have hfst := List.Perm.map Prod.fst h
  rw [List.map_map, List.map_map] at hfst
  exact hfst

end SameContents

/-- **Registries of classes with the same contents are the same up to order.** -/
theorem Registry.sameUpToOrder_of_sameContents {r r' : Registry}
    (h : SameContents r.toList r'.toList) : r.sameUpToOrder r' = true :=
  Keyed.sameEntries_of_perm (fun _ _ h => (ClassDefinition.content_eq_iff.mp h).1)
    (fun _ _ h => ClassDefinition.sameUpToOrder_of_content_eq h) h

end Specimen.Schema
