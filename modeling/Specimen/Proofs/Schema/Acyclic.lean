import Mathlib.Data.Nat.Find
import Specimen.Proofs.Inference.ReferenceTree
import Specimen.Proofs.Schema.Expansion

set_option autoImplicit false

/-! # Registries without circles

The structure of a class is given down to a depth, because references may run in circles. Where
they do not, some depth is enough: there nothing is left out of the structure any more
(`Expansion.IsFull`). `isAcyclic_iff` says that this is what circles come down to: no class leads
back to itself exactly if each class has a full structure.

* `isFull_expandRef` is the induction in one direction, down from a class. It carries along the
  names on the way. Without circles they are distinct, so no way is longer than the registry.
* In the other direction, the least depth at which a structure is full goes down along references
  (`isAcyclic_of_rank`).
-/

namespace Specimen.Schema

/-! ## Full structures -/

/-- No class of a structure was left out because of its depth. -/
inductive Expansion.IsFull : Expansion → Prop
  | plain (t : FieldType) : IsFull (.plain t)
  | listOf {item : Expansion} (h : IsFull item) : IsFull (.listOf item)
  | object {fields : List (String × Expansion)} (h : ∀ p ∈ fields, IsFull p.2) :
      IsFull (.object fields)
  | unregistered (name : String) : IsFull (.unregistered name)

/-- The structure of a type is full if that of the class is to which it refers. -/
theorem FieldType.isFull_expandWith_iff {expandRef : String → Expansion} {t : FieldType} :
    (t.expandWith expandRef).IsFull ↔ ∀ m, t.reference? = some m → (expandRef m).IsFull := by
  induction t with
  | listOf item ih =>
      rw [FieldType.expandWith, FieldType.reference?, ← ih]
      constructor
      · rintro (_ | h)
        exact h
      · exact .listOf
  | objectRef name =>
      rw [FieldType.expandWith, FieldType.reference?]
      simp
  | _ =>
      constructor
      · intro _ m hm
        cases hm
      · exact fun _ => .plain _

namespace Registry

variable {r r' : Registry} {m n : String} {k : Nat}

theorem expandRef_of_not_mem (hn : n ∉ r.keys) (k : Nat) : r.expandRef k n = .unregistered n := by
  cases k with
  | zero => exact if_neg (mt Keyed.contains_eq_true_iff.mp hn)
  | succ k => rw [expandRef, Keyed.find?_eq_none_iff.mpr hn]

theorem expandRef_zero_of_mem (hn : n ∈ r.keys) : r.expandRef 0 n = .deeper :=
  if_pos (Keyed.contains_eq_true_iff.mpr hn)

theorem expandRef_succ_of_mem {c : ClassDefinition} (hc : c ∈ r.toList) (k : Nat) :
    r.expandRef (k + 1) c.qualifiedName
      = .object (c.signature.map fun (field, t) => (field, t.expandWith (r.expandRef k))) := by
  have hfind : r.find? c.qualifiedName = some c := Keyed.find?_eq_some_iff.mpr ⟨hc, rfl⟩
  rw [expandRef, hfind]

/-- The structure of a class is full at a depth if those of the classes to which it refers are at
the depth below. -/
theorem isFull_expandRef_succ_iff {c : ClassDefinition} (hc : c ∈ r.toList) :
    (r.expandRef (k + 1) c.qualifiedName).IsFull ↔
      ∀ t ∈ c.fieldTypes, ∀ m, t.reference? = some m → (r.expandRef k m).IsFull := by
  rw [expandRef_succ_of_mem hc]
  constructor
  · rintro (_ | _ | hfields) t ht
    obtain ⟨entry, hentry, rfl⟩ := List.mem_map.mp ht
    have hfull := hfields _ (List.mem_map.mpr ⟨entry, hentry, rfl⟩)
    exact FieldType.isFull_expandWith_iff.mp hfull
  · intro h
    refine .object (fun p hp => ?_)
    obtain ⟨entry, hentry, rfl⟩ := List.mem_map.mp hp
    have ht : entry.2 ∈ c.fieldTypes := List.mem_map.mpr ⟨entry, hentry, rfl⟩
    exact FieldType.isFull_expandWith_iff.mpr (h entry.2 ht)

/-! ## Registries without circles -/

/-- No field of a class leads back to the class. -/
def IsAcyclic (r : Registry) : Prop :=
  ∀ c ∈ r.toList, ∀ t ∈ c.fieldTypes, ¬ r.Reaches t c.qualifiedName

/-- A class has a field that leads to a class. -/
def LeadsTo (r : Registry) (m n : String) : Prop :=
  ∃ c ∈ r.toList, c.qualifiedName = m ∧ ∃ t ∈ c.fieldTypes, r.Reaches t n

theorem IsAcyclic.not_leadsTo_self (h : r.IsAcyclic) (n : String) : ¬ r.LeadsTo n n := by
  rintro ⟨c, hc, rfl, t, ht, hreaches⟩
  exact h c hc t ht hreaches

theorem Reaches.trans_leadsTo {t : FieldType} (h : r.Reaches t m) (hmn : r.LeadsTo m n) :
    r.Reaches t n := by
  induction h with
  | reference ht =>
      obtain ⟨c, hc, hm, u, hu, hreaches⟩ := hmn
      obtain ⟨entry, hentry, rfl⟩ := List.mem_map.mp hu
      exact .field ht (Keyed.find?_eq_some_iff.mpr ⟨hc, hm⟩) hentry hreaches
  | field ht hfind hentry _ ih => exact .field ht hfind hentry (ih hmn)

theorem LeadsTo.trans {o : String} (h : r.LeadsTo m n) (h' : r.LeadsTo n o) : r.LeadsTo m o := by
  obtain ⟨c, hc, hm, t, ht, hreaches⟩ := h
  exact ⟨c, hc, hm, t, ht, hreaches.trans_leadsTo h'⟩

/-- Where ranks go down along references, whatever is reached ranks below what is referred to. -/
theorem Reaches.rank_lt {rank : String → Nat} {t : FieldType} {bound : Nat} (h : r.Reaches t n)
    (hrank : ∀ c ∈ r.toList, ∀ t ∈ c.fieldTypes, ∀ m, t.reference? = some m →
      rank m < rank c.qualifiedName)
    (ht : ∀ m, t.reference? = some m → rank m < bound) : rank n < bound := by
  induction h generalizing bound with
  | reference href => exact ht _ href
  | @field t m n c entry href hfind hentry _ ih =>
      obtain ⟨hc, rfl⟩ := Keyed.find?_eq_some_iff.mp hfind
      have hfield : entry.2 ∈ c.fieldTypes := List.mem_map.mpr ⟨entry, hentry, rfl⟩
      have hn : rank n < rank c.qualifiedName := ih (hrank c hc entry.2 hfield)
      have hclass : rank c.qualifiedName < bound := ht _ href
      omega

/-- If ranks go down along references, there are no circles. -/
theorem isAcyclic_of_rank (rank : String → Nat)
    (hrank : ∀ c ∈ r.toList, ∀ t ∈ c.fieldTypes, ∀ m, t.reference? = some m →
      rank m < rank c.qualifiedName) : r.IsAcyclic := by
  intro c hc t ht hreaches
  have hlt : rank c.qualifiedName < rank c.qualifiedName :=
    hreaches.rank_lt hrank (hrank c hc t ht)
  exact Nat.lt_irrefl _ hlt

/-- **The structure of a name is full** at a depth that, together with the number of classes on
the way down to it, is at least the number of all classes. -/
theorem isFull_expandRef (h : r.IsAcyclic) {above : List String} (hnodup : above.Nodup)
    (hkeys : above ⊆ r.keys) (habove : ∀ m ∈ above, r.LeadsTo m n)
    (hsize : r.size ≤ k + above.length) : (r.expandRef k n).IsFull := by
  induction k generalizing n above with
  | zero =>
      by_cases hn : n ∈ r.keys
      · -- all classes are above `n` already, and `n` is not above itself
        have hnotAbove : n ∉ above := fun hmem => h.not_leadsTo_self n (habove n hmem)
        have hlength : (n :: above).length ≤ r.keys.length :=
          (List.nodup_cons.mpr ⟨hnotAbove, hnodup⟩).length_le_of_subset
            (List.cons_subset.mpr ⟨hn, hkeys⟩)
        simp only [List.length_cons, Keyed.keys, List.length_map] at hlength
        simp only [Keyed.size] at hsize
        omega
      · rw [expandRef_of_not_mem hn]
        exact .unregistered n
  | succ k ih =>
      by_cases hn : n ∈ r.keys
      · obtain ⟨c, hc, rfl⟩ := List.mem_map.mp hn
        refine (isFull_expandRef_succ_iff hc).mpr (fun t ht m hm => ?_)
        have hfirst : r.LeadsTo c.qualifiedName m := ⟨c, hc, rfl, t, ht, .reference hm⟩
        have hnotAbove : c.qualifiedName ∉ above :=
          fun hmem => h.not_leadsTo_self _ (habove _ hmem)
        have hnodup' : (c.qualifiedName :: above).Nodup := List.nodup_cons.mpr ⟨hnotAbove, hnodup⟩
        refine ih hnodup' (List.cons_subset.mpr ⟨hn, hkeys⟩) (fun o ho => ?_) ?_
        · rcases List.mem_cons.mp ho with rfl | ho
          · exact hfirst
          · exact (habove o ho).trans hfirst
        · simp only [List.length_cons]
          omega
      · rw [expandRef_of_not_mem hn]
        exact .unregistered n

/-- The structure of a name with as many classes on every path replaced as there are. -/
def fullExpansion (r : Registry) (n : String) : Expansion := r.expandRef r.size n

theorem IsAcyclic.isFull (h : r.IsAcyclic) (n : String) : (r.fullExpansion n).IsFull := by
  have hnone : ([] : List String).Nodup := List.nodup_nil
  exact isFull_expandRef h hnone (List.nil_subset _) (by simp) (by simp)

/-- If the structure of each class is full at some depth, there are no circles. -/
theorem isAcyclic_of_exists_isFull (h : ∀ n, ∃ k, (r.expandRef k n).IsFull) : r.IsAcyclic := by
  classical
  -- the least depth at which the structure is full goes down along references
  refine isAcyclic_of_rank (fun n => Nat.find (h n)) (fun c hc t ht m hm => ?_)
  have hfull := Nat.find_spec (h c.qualifiedName)
  cases hrank : Nat.find (h c.qualifiedName) with
  | zero =>
      rw [hrank, expandRef_zero_of_mem (Keyed.key_mem_keys hc)] at hfull
      cases hfull
  | succ k =>
      rw [hrank] at hfull
      have hbelow : (r.expandRef k m).IsFull := (isFull_expandRef_succ_iff hc).mp hfull t ht m hm
      have hle : Nat.find (h m) ≤ k := Nat.find_min' (h m) hbelow
      omega

/-- **A registry is acyclic exactly if all structures in it are finite.** -/
theorem isAcyclic_iff : r.IsAcyclic ↔ ∀ n, ∃ k, (r.expandRef k n).IsFull :=
  ⟨fun h n => ⟨r.size, h.isFull n⟩, isAcyclic_of_exists_isFull⟩

end Registry

end Specimen.Schema
