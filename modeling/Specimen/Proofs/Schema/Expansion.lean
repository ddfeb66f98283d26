import Specimen.Proofs.Schema.Representative

set_option autoImplicit false

/-! # Merging preserves meaning

What a type means apart from the names of classes is the structure of the values that it
describes: its `expand`, in which a reference to a registered class is replaced by the class's
fields, down to a given depth, since classes may refer to each other in circles. A reference to a
class that is not registered stays, with its name.

`expand_merge` says that merging changes no expansion, at any depth. The induction is on the
depth, and what carries it is that a class and its representative have the same fields up to
redirection (`Registry.Represents.kept`); whether references run in circles does not matter.
-/

namespace Specimen.Schema

/-- The structure of the values of a type. -/
inductive Expansion
  /-- A type without parts. -/
  | plain (type : FieldType)
  /-- A list. -/
  | listOf (item : Expansion)
  /-- An object with its fields in order. -/
  | object (fields : List (String × Expansion))
  /-- A reference to a class that is not registered. -/
  | unregistered (name : String)
  /-- A registered class below the depth that was asked for. -/
  | deeper

/-- The structure of a type in which each reference is replaced as given. -/
def FieldType.expandWith (expandRef : String → Expansion) : FieldType → Expansion
  | .listOf item => .listOf (expandWith expandRef item)
  | .objectRef name => expandRef name
  | t => .plain t

/-- The structure of a reference, with `depth` classes on every path replaced by their fields. -/
def Registry.expandRef (r : Registry) : Nat → String → Expansion
  | 0, name => if r.contains name then .deeper else .unregistered name
  | depth + 1, name =>
    match r.find? name with
    | none => .unregistered name
    | some c =>
      .object (c.signature.map fun (field, t) => (field, t.expandWith (r.expandRef depth)))

/-- The structure of a type, with `depth` classes on every path replaced by their fields. -/
def Registry.expand (r : Registry) (depth : Nat) (t : FieldType) : Expansion :=
  t.expandWith (r.expandRef depth)

theorem FieldType.expandWith_mapRefs (expandRef : String → Expansion) (f : String → String)
    (t : FieldType) : (t.mapRefs f).expandWith expandRef = t.expandWith (expandRef ∘ f) := by
  induction t with
  | listOf item ih => exact congrArg Expansion.listOf ih
  | _ => rfl

/-- The structure of an object from a signature in which references are redirected. -/
theorem map_expandWith_redirectSignature (expandRef : String → Expansion) (f : String → String)
    (entries : List (String × FieldType)) :
    (redirectSignature f entries).map (fun (field, t) => (field, t.expandWith expandRef))
      = entries.map (fun (field, t) => (field, t.expandWith (expandRef ∘ f))) := by
  rw [redirectSignature, List.map_map]
  exact List.map_congr_left
    (fun p _ => congrArg (Prod.mk p.1) (p.2.expandWith_mapRefs expandRef f))

namespace Registry

variable {r r' : Registry} {f : String → String}

/-- **A name and its representative have the same structure.** -/
theorem Represents.expandRef_eq (h : r.Represents r' f) (depth : Nat) :
    r.expandRef depth = r'.expandRef depth ∘ f := by
  induction depth with
  | zero =>
      funext n
      show (if r.contains n then Expansion.deeper else .unregistered n)
        = if r'.contains (f n) then Expansion.deeper else .unregistered (f n)
      by_cases hn : n ∈ r.keys
      · rw [if_pos (Keyed.contains_eq_true_iff.mpr hn),
          if_pos (Keyed.contains_eq_true_iff.mpr ((h.mem_keys_iff n).mpr hn))]
      · rw [if_neg (mt Keyed.contains_eq_true_iff.mp hn), h.outside n hn,
          if_neg (fun hn' => hn (h.keys_subset (Keyed.contains_eq_true_iff.mp hn')))]
  | succ depth ih =>
      funext n
      rw [Function.comp_apply, expandRef, expandRef]
      by_cases hn : n ∈ r.keys
      · -- `d` stands for `c`, and with its references redirected it is what is found after merging
        obtain ⟨c, hc, rfl⟩ := List.mem_map.mp hn
        obtain ⟨d, hd, hcd, hfix, hsig⟩ := h.kept c hc
        have hfind : r.find? c.qualifiedName = some c := Keyed.find?_eq_some_iff.mpr ⟨hc, rfl⟩
        have hfind' : r'.find? (f c.qualifiedName) = some (d.mapRefs f) :=
          Keyed.find?_eq_some_iff.mpr ⟨h.mem_iff.mpr ⟨d, hd, hfix, rfl⟩, hcd.symm⟩
        rw [hfind, hfind']
        show Expansion.object _ = Expansion.object _
        rw [ClassDefinition.signature_mapRefs, hsig, map_expandWith_redirectSignature, ← ih]
      · rw [h.outside n hn, Keyed.find?_eq_none_iff.mpr hn,
          Keyed.find?_eq_none_iff.mpr (fun hn' => hn (h.keys_subset hn'))]

/-- A type and what it becomes by redirection have the same structure. -/
theorem Represents.expand_eq (h : r.Represents r' f) (depth : Nat) (t : FieldType) :
    r.expand depth t = r'.expand depth (t.mapRefs f) := by
  rw [expand, expand, FieldType.expandWith_mapRefs, h.expandRef_eq]

end Registry

/-- **Merging preserves meaning.** There is a map of class names to class names, the identity on
names that are not registered, such that each class of the schema has the structure, at every
depth, of the class it is mapped to in the merged schema, and so has the root's type of what the
root has become. -/
theorem expand_merge (s : Schema) :
    ∃ f : String → String,
      (∀ n, n ∉ s.registry.keys → f n = n) ∧
      (∀ n ∈ s.registry.keys, f n ∈ s.merge.registry.keys) ∧
      (∀ depth n, s.registry.expand depth (.objectRef n)
        = s.merge.registry.expand depth (.objectRef (f n))) ∧
      (∀ depth, s.registry.expand depth s.root = s.merge.registry.expand depth s.merge.root) := by
  have h := s.represents_merge
  refine ⟨s.representative, h.outside, fun n hn => (h.mem_keys_iff n).mpr hn,
    fun depth n => h.expand_eq depth (.objectRef n), fun depth => ?_⟩
  rw [s.root_merge]
  exact h.expand_eq depth s.root

end Specimen.Schema
