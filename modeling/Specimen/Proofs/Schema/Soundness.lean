import Specimen.Proofs.Inference.Reachability
import Specimen.Proofs.Schema.Alike

set_option autoImplicit false

/-! # Merging keeps a schema sound

Each pass of merging removes classes and redirects the references to them, and later passes remove
some of the classes that earlier ones redirected to. `merge_sound` says what is left behind in the
end: if no reference led nowhere before, none does afterwards; the classes that are kept stay in
their order; each of them has the fields that it had, up to references that now lead to classes
which are alike; and the class of the root is always kept.

No pass is mentioned. All of this holds of whatever is left of a registry when each name has a
representative (`Registry.Represents`), and passes compose to such a thing.
-/

namespace Specimen.Schema

section Redirected

variable {E : String → String → Prop} {f : String → String}

/-- Redirecting references to related names keeps names and order of fields, and their types up to
related references. -/
theorem sameFields_redirectSignature (hE : Equivalence E) (hf : ∀ n, E (f n) n)
    (fields : List (String × FieldType)) : SameFields E fields (redirectSignature f fields) := by
  unfold SameFields redirectSignature
  rw [List.forall₂_map_right_iff, List.forall₂_same]
  intro p _
  exact ⟨rfl, (FieldType.related_mapRefs hf p.2).symm hE⟩

end Redirected

namespace Registry.Represents

variable {r r' : Registry} {f : String → String}

/-- The names that are left stand in their order. -/
theorem keys_sublist (h : r.Represents r' f) : r'.keys.Sublist r.keys := by
  have hkeys : r'.keys
      = (r.toList.filter fun c => f c.qualifiedName = c.qualifiedName).map
          ClassDefinition.qualifiedName := by
    unfold Keyed.keys
    rw [h.classes, List.map_map]
    rfl
  rw [hkeys]
  exact List.filter_sublist.map ClassDefinition.qualifiedName

/-- A class that is left was there before, with the same fields up to related references. -/
theorem exists_sameFields (h : r.Represents r' f) {E : String → String → Prop}
    (hE : Equivalence E) (hf : ∀ n, E (f n) n) {c' : ClassDefinition} (hc' : c' ∈ r'.toList) :
    ∃ c ∈ r.toList, c.qualifiedName = c'.qualifiedName ∧ SameFields E c.signature c'.signature := by
  obtain ⟨c, hc, _, rfl⟩ := h.mem_iff.mp hc'
  refine ⟨c, hc, rfl, ?_⟩
  rw [ClassDefinition.signature_mapRefs]
  exact sameFields_redirectSignature hE hf c.signature

end Registry.Represents

/-- The class of the root represents itself. -/
theorem representative_root {s : Schema} {n : String} (h : s.root = .objectRef n) :
    s.representative n = n :=
  representativeFrom_root (FieldType.className?_eq_some_iff.mpr h) s.registry

/-- **Merging keeps a schema sound.** If every reference leads to a registered class, then

* every reference still does after merging;
* the names that are left are some of the earlier ones, in the same order;
* each class that is left has its fields in their order, and their types and the type of the root
  are the same but for the names in references, which are replaced by alike ones;
* if the root is a reference, then it stays as it is and its class is kept. -/
theorem merge_sound {s : Schema} (hclosed : s.registry.Closed)
    (hroot : s.root.RefersWithin s.registry.keys) :
    (s.merge.registry.Closed ∧ s.merge.root.RefersWithin s.merge.registry.keys) ∧
    s.merge.registry.keys.Sublist s.registry.keys ∧
    (∀ c' ∈ s.merge.registry.toList, ∃ c ∈ s.registry.toList,
      c.qualifiedName = c'.qualifiedName ∧
        SameFields s.registry.Alike c.signature c'.signature) ∧
    s.root.Related s.registry.Alike s.merge.root ∧
    ∀ n, s.root = .objectRef n → n ∈ s.merge.registry.keys ∧ s.merge.root = s.root := by
  have h := s.represents_merge
  have hequiv := s.registry.identifies_alike.equivalence
  have halike : ∀ n, s.registry.Alike (s.representative n) n :=
    representative_alike _ s.registry
  refine ⟨⟨h.closed hclosed, ?_⟩, h.keys_sublist,
    fun c' hc' => h.exists_sameFields hequiv halike hc', ?_, fun n hn => ⟨?_, ?_⟩⟩
  · rw [s.root_merge]
    exact h.refersWithin hroot
  · rw [s.root_merge]
    exact (FieldType.related_mapRefs halike s.root).symm hequiv
  · have hregistered : n ∈ s.registry.keys := hroot n (by rw [hn]; rfl)
    rw [← representative_root hn]
    exact (h.mem_keys_iff n).mpr hregistered
  · rw [s.root_merge, hn]
    exact congrArg FieldType.objectRef (representative_root hn)

/-- Two identical classes, one of which refers to itself and the other of which is the root, and
two classes that refer to them in lists. -/
def nestedTwins : Schema :=
  ⟨.objectRef "p.B", Keyed.ofList
    [⟨"p.A", Keyed.ofList [("next", .objectRef "p.A")]⟩,
      ⟨"p.B", Keyed.ofList [("next", .objectRef "p.A")]⟩,
      ⟨"p.C", Keyed.ofList [("items", .listOf (.objectRef "p.A"))]⟩,
      ⟨"p.D", Keyed.ofList [("items", .listOf (.objectRef "p.B"))]⟩]⟩

theorem merge_sound_nestedTwins :
    nestedTwins.registry.Closed ∧ nestedTwins.root.RefersWithin nestedTwins.registry.keys ∧
      nestedTwins.merge.registry.Closed ∧
      nestedTwins.merge.registry.keys.Sublist ["p.A", "p.B", "p.C", "p.D"] ∧
      "p.B" ∈ nestedTwins.merge.registry.keys ∧ nestedTwins.merge.root = .objectRef "p.B" := by
  have hclosed : nestedTwins.registry.Closed := by decide
  have hroot : nestedTwins.root.RefersWithin nestedTwins.registry.keys := by decide
  obtain ⟨⟨hmerged, _⟩, hkeys, _, _, hkept⟩ := merge_sound hclosed hroot
  exact ⟨hclosed, hroot, hmerged, hkeys, hkept "p.B" rfl⟩

/-- Both pairs are merged, the second one because the first one is. -/
example : nestedTwins.merge.registry.keys = ["p.B", "p.C"] := by
  have hpass : nestedTwins.registry.duplicates (some "p.B") ≠ [] := by decide
  have hpass' :
      (nestedTwins.registry.rename (nestedTwins.registry.duplicates (some "p.B"))).duplicates
        (some "p.B") ≠ [] := by decide
  show (mergeFrom (some "p.B") nestedTwins.root nestedTwins.registry).registry.keys = _
  rw [mergeFrom_of_ne_nil hpass, mergeFrom_of_ne_nil hpass', mergeFrom_of_eq_nil (by decide)]
  decide

end Specimen.Schema
