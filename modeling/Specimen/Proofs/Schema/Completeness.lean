import Specimen.Proofs.Schema.Acyclic
import Specimen.Proofs.Schema.Alike

set_option autoImplicit false

/-! # Merging is complete where references do not run in circles

Merging compares classes one level deep, by the names in the types of their fields. That repeating
this misses nothing is not obvious, and with references in circles it is false: two classes that
refer to nothing but themselves have the same structure at every depth and are kept. Circles are
the only exception. `merge_complete` says that merging leaves of an acyclic schema an acyclic one,
in which no two names have the same structure and which has as few classes as any schema that keeps
the structure of each class and of the root (`Schema.IsQuotient`).

What carries this is `alike_of_expandRef_eq`, by induction on the depth at which a structure is
full: two classes with the same structure have references to names with the same structure at the
depth below, in the same places, so they are alike. And names that are alike have one
representative, in whatever passes they are merged.
-/

namespace Specimen.Schema

namespace Registry

variable {r r' : Registry} {f : String → String} {m n : String} {k : Nat}

/-! ## What has the same structure is alike -/

section SameStructure

variable {E : String → String → Prop}

/-- Types with the same full structure are the same up to references with the same full
structure. -/
theorem related_of_expand_eq {t u : FieldType}
    (hE : ∀ m n, (r.expandRef k m).IsFull → r.expandRef k m = r.expandRef k n → E m n)
    (hfull : (r.expand k t).IsFull) (h : r.expand k t = r.expand k u) : t.Related E u := by
  -- what stands for a reference is neither a list nor a type without parts
  have hclass : ∀ n, (∀ v, r.expandRef k n ≠ .plain v) ∧ ∀ v, r.expandRef k n ≠ .listOf v := by
    intro n
    cases k with
    | zero =>
        rw [expandRef]
        split <;> simp
    | succ k =>
        rw [expandRef]
        split <;> simp
  induction t generalizing u with
  | listOf item ih =>
      cases u with
      | listOf item' =>
          have hitem : (r.expand k item).IsFull := by
            cases hfull with
            | listOf hitem => exact hitem
          exact .listOf (ih hitem (Expansion.listOf.inj h))
      | objectRef n => exact absurd h.symm ((hclass n).2 _)
      | _ => cases h
  | objectRef m =>
      cases u with
      | objectRef n => exact .objectRef (hE m n hfull h)
      | listOf item' => exact absurd h ((hclass m).2 _)
      | _ => exact absurd h ((hclass m).1 _)
  | _ =>
      cases u with
      | objectRef n => exact absurd h.symm ((hclass n).1 _)
      | listOf item' => cases h
      | _ =>
          rw [Expansion.plain.inj h]
          exact .same _

/-- The same for the fields of a class. -/
theorem sameFields_of_map_expand_eq {fs gs : List (String × FieldType)}
    (hE : ∀ m n, (r.expandRef k m).IsFull → r.expandRef k m = r.expandRef k n → E m n)
    (hfull : ∀ entry ∈ fs, (r.expand k entry.2).IsFull)
    (h : fs.map (fun (field, t) => (field, r.expand k t))
      = gs.map (fun (field, t) => (field, r.expand k t))) : SameFields E fs gs := by
  induction fs generalizing gs with
  | nil =>
      rw [List.map_nil, eq_comm, List.map_eq_nil_iff] at h
      subst h
      exact .nil
  | cons p fs ih =>
      obtain ⟨q, gs, rfl⟩ : ∃ q gs', gs = q :: gs' := by
        cases gs with
        | nil => simp at h
        | cons q gs => exact ⟨q, gs, rfl⟩
      rw [List.map_cons, List.map_cons, List.cons.injEq, Prod.mk.injEq] at h
      obtain ⟨⟨hname, htype⟩, htail⟩ := h
      rw [List.forall_mem_cons] at hfull
      exact .cons ⟨hname, related_of_expand_eq hE hfull.1 htype⟩ (ih hfull.2 htail)

end SameStructure

/-- What has the structure of a name that is not registered is that name. -/
theorem eq_of_expandRef_eq_of_not_mem (hm : m ∉ r.keys)
    (h : r.expandRef k m = r.expandRef k n) : m = n := by
  rw [expandRef_of_not_mem hm] at h
  by_cases hn : n ∈ r.keys
  · obtain ⟨c, hc, rfl⟩ := List.mem_map.mp hn
    cases k with
    | zero =>
        rw [expandRef_zero_of_mem hn] at h
        cases h
    | succ k =>
        rw [expandRef_succ_of_mem hc] at h
        cases h
  · rw [expandRef_of_not_mem hn] at h
    exact Expansion.unregistered.inj h

/-- **Names with the same full structure are alike.** -/
theorem alike_of_expandRef_eq (hfull : (r.expandRef k m).IsFull)
    (h : r.expandRef k m = r.expandRef k n) : r.Alike m n := by
  have hr := r.identifies_alike
  induction k generalizing m n with
  | zero =>
      by_cases hm : m ∈ r.keys
      · rw [expandRef_zero_of_mem hm] at hfull
        cases hfull
      · rw [eq_of_expandRef_eq_of_not_mem hm h]
        exact hr.equivalence.refl n
  | succ k ih =>
      by_cases hm : m ∈ r.keys
      · by_cases hn : n ∈ r.keys
        · obtain ⟨c, hc, rfl⟩ := List.mem_map.mp hm
          obtain ⟨d, hd, rfl⟩ := List.mem_map.mp hn
          have hbelow := (isFull_expandRef_succ_iff hc).mp hfull
          rw [expandRef_succ_of_mem hc, expandRef_succ_of_mem hd, Expansion.object.injEq] at h
          have hfields : SameFields r.Alike c.signature d.signature := by
            refine sameFields_of_map_expand_eq (fun m n => ih) (fun entry hentry => ?_) h
            have ht : entry.2 ∈ c.fieldTypes := List.mem_map.mpr ⟨entry, hentry, rfl⟩
            exact FieldType.isFull_expandWith_iff.mpr (hbelow entry.2 ht)
          exact hr.classes c hc d hd hfields
        · rw [← eq_of_expandRef_eq_of_not_mem hn h.symm]
          exact hr.equivalence.refl n
      · rw [eq_of_expandRef_eq_of_not_mem hm h]
        exact hr.equivalence.refl n

/-! ## Merging acyclic registries -/

/-- A name that is left represents itself. -/
theorem Represents.eq_self_of_mem_keys (h : r.Represents r' f) (hn : n ∈ r'.keys) : f n = n := by
  obtain ⟨c', hc', rfl⟩ := List.mem_map.mp hn
  obtain ⟨c, _, hfix, rfl⟩ := h.mem_iff.mp hc'
  exact hfix

/-- What is left of an acyclic registry is acyclic, since structures stay as they are. -/
theorem Represents.isAcyclic (h : r.Represents r' f) (hr : r.IsAcyclic) : r'.IsAcyclic := by
  refine isAcyclic_iff.mpr (fun n => ?_)
  by_cases hn : n ∈ r'.keys
  · have hstructure : r.expandRef r.size n = r'.expandRef r.size n := by
      rw [h.expandRef_eq, Function.comp_apply, h.eq_self_of_mem_keys hn]
    exact ⟨r.size, hstructure ▸ hr.isFull n⟩
  · exact ⟨0, expandRef_of_not_mem hn 0 ▸ .unregistered n⟩

/-- An acyclic registry on which a pass finds nothing to merge has a different structure for each
name. -/
theorem fullExpansion_injective (hr : r.IsAcyclic) {root : Option String}
    (hnodup : r.duplicates root = []) : Function.Injective r.fullExpansion := by
  intro m n h
  have halike : r.Alike m n := alike_of_expandRef_eq (hr.isFull m) h
  have hsame := representative_eq_of_alike root r halike
  rwa [representativeFrom_of_eq_nil hnodup] at hsame

end Registry

end Specimen.Schema

namespace Specimen

open Specimen.Schema

/-- A schema keeps the structure of each class of another one, under another name perhaps and
shared with other classes, and the structure of the root. -/
structure Schema.IsQuotient (s s' : Schema) (q : String → String) : Prop where
  /-- Each class is mapped to a class. -/
  registered : ∀ n ∈ s.registry.keys, q n ∈ s'.registry.keys
  /-- The class has the structure of the one to which it is mapped. -/
  structures : ∀ depth, ∀ n ∈ s.registry.keys,
    s.registry.expand depth (.objectRef n) = s'.registry.expand depth (.objectRef (q n))
  /-- The type of the root has the structure that it had. -/
  root : ∀ depth, s.registry.expand depth s.root = s'.registry.expand depth s'.root

namespace Schema

variable {s s' : Schema} {q : String → String}

/-- Merging gives a quotient. -/
theorem isQuotient_merge (s : Schema) : s.IsQuotient s.merge s.representative := by
  have h := s.represents_merge
  refine ⟨fun n hn => (h.mem_keys_iff n).mpr hn, fun depth n _ => h.expand_eq depth _, ?_⟩
  intro depth
  rw [s.root_merge]
  exact h.expand_eq depth s.root

/-- **No quotient goes further than merging**: classes that are mapped to one class have one
representative. -/
theorem IsQuotient.representative_eq (hq : s.IsQuotient s' q) (h : s.registry.IsAcyclic)
    {m n : String} (hm : m ∈ s.registry.keys) (hn : n ∈ s.registry.keys) (hmn : q m = q n) :
    s.representative m = s.representative n := by
  have hstructure : s.registry.fullExpansion m = s.registry.fullExpansion n :=
    calc s.registry.fullExpansion m
      _ = s'.registry.expandRef s.registry.size (q m) := hq.structures _ m hm
      _ = s'.registry.expandRef s.registry.size (q n) := by rw [hmn]
      _ = s.registry.fullExpansion n := (hq.structures _ n hn).symm
  exact representative_eq_of_alike _ _ (Registry.alike_of_expandRef_eq (h.isFull m) hstructure)

/-- No quotient has fewer classes than what merging leaves. -/
theorem IsQuotient.size_merge_le (hq : s.IsQuotient s' q) (h : s.registry.IsAcyclic) :
    s.merge.registry.size ≤ s'.registry.size := by
  have hrep := s.represents_merge
  have hinj : ∀ m ∈ s.merge.registry.keys, ∀ n ∈ s.merge.registry.keys, q m = q n → m = n := by
    intro m hm n hn hmn
    have hsame := hq.representative_eq h (hrep.keys_subset hm) (hrep.keys_subset hn) hmn
    rwa [hrep.eq_self_of_mem_keys hm, hrep.eq_self_of_mem_keys hn] at hsame
  have hnodup : (s.merge.registry.keys.map q).Nodup := List.Nodup.map_on hinj s.merge.registry.nodup
  have hsubset : s.merge.registry.keys.map q ⊆ s'.registry.keys := by
    intro k hk
    obtain ⟨n, hn, rfl⟩ := List.mem_map.mp hk
    exact hq.registered n (hrep.keys_subset hn)
  have hlength := hnodup.length_le_of_subset hsubset
  simpa [Keyed.keys, Keyed.size] using hlength

/-- **Merging is complete on acyclic registries.** If no class leads back to itself, then

* after merging no class leads back to itself either, so the structure of each name is finite;
* no two names that are left have the same structure;
* merging keeps the structure of each class and of the root, and no schema that does so has fewer
  classes. -/
theorem merge_complete (h : s.registry.IsAcyclic) :
    s.merge.registry.IsAcyclic ∧
    (∀ n, (s.merge.registry.fullExpansion n).IsFull) ∧
    (∀ m n, s.merge.registry.fullExpansion m = s.merge.registry.fullExpansion n → m = n) ∧
    s.IsQuotient s.merge s.representative ∧
    ∀ s' q, s.IsQuotient s' q → s.merge.registry.size ≤ s'.registry.size := by
  have hmerged : s.merge.registry.IsAcyclic := s.represents_merge.isAcyclic h
  have hnodup := duplicates_mergeFrom s.root.className? s.root s.registry
  exact ⟨hmerged, hmerged.isFull,
    fun m n hmn => Registry.fullExpansion_injective hmerged hnodup hmn,
    s.isQuotient_merge, fun s' q hq => hq.size_merge_le h⟩

/-- Two identical classes, two classes with lists of them, and the class of the root, which refers
to those and to a class that is not registered. -/
def pairedLists : Schema :=
  ⟨.objectRef "p.R", Keyed.ofList
    [⟨"p.A", Keyed.ofList [("id", .integer)]⟩,
      ⟨"p.B", Keyed.ofList [("id", .integer)]⟩,
      ⟨"p.C", Keyed.ofList [("items", .listOf (.objectRef "p.A"))]⟩,
      ⟨"p.D", Keyed.ofList [("items", .listOf (.objectRef "p.B"))]⟩,
      ⟨"p.R", Keyed.ofList [("c", .objectRef "p.C"), ("d", .objectRef "p.D"),
        ("other", .objectRef "q.O")]⟩]⟩

theorem merge_complete_pairedLists :
    pairedLists.registry.IsAcyclic ∧ pairedLists.merge.registry.IsAcyclic ∧
      (∀ m n, pairedLists.merge.registry.fullExpansion m
        = pairedLists.merge.registry.fullExpansion n → m = n) ∧
      ∀ s' q, pairedLists.IsQuotient s' q →
        pairedLists.merge.registry.size ≤ s'.registry.size := by
  have hacyclic : pairedLists.registry.IsAcyclic :=
    Registry.isAcyclic_of_rank
      (fun n => if n = "p.R" then 2 else if n = "p.C" ∨ n = "p.D" then 1 else 0)
      (show ∀ c ∈ pairedLists.registry.toList, ∀ t ∈ c.fieldTypes, ∀ m ∈ t.reference?, _ by decide)
  obtain ⟨hmerged, _, hdistinct, _, hleast⟩ := merge_complete hacyclic
  exact ⟨hacyclic, hmerged, hdistinct, hleast⟩

end Schema

end Specimen
