import Specimen.Schema.Registry

set_option autoImplicit false

/-! # Merging identical classes

Classes with the same names and types of fields, in the same order, are merged into one of them:
the root's class if it is among them, otherwise the one that was registered first. References
to the others are redirected. This can make further classes identical, so it is repeated until
no two classes are (`Schema.merge`); each pass that does not end removes a class.
-/

namespace Specimen.Schema

/-- The class of that name, if a name is given and registered, followed by all classes: of two
identical classes the one that comes first is kept. -/
def Registry.bySeniority (r : Registry) (root : Option String) : List ClassDefinition :=
  ((root.bind r.find?).toList) ++ r.toList

/-- The name of the class that is kept for the classes identical to `c`. -/
def Registry.survivor (r : Registry) (root : Option String) (c : ClassDefinition) : String :=
  match (r.bySeniority root).find? fun d => d.signature == c.signature with
  | some d => d.qualifiedName
  | none => c.qualifiedName

/-- The names of the classes that are not kept, each with the name of the class that is kept for
it. -/
def Registry.duplicates (r : Registry) (root : Option String) : List (String × String) :=
  r.toList.filterMap fun c =>
    if r.survivor root c = c.qualifiedName then none
    else some (c.qualifiedName, r.survivor root c)

/-- A class name, or the name that replaces it. -/
def redirect (renames : List (String × String)) (name : String) : String :=
  (renames.lookup name).getD name

/-- The classes that are not replaced, with their references redirected. -/
def Registry.rename (r : Registry) (renames : List (String × String)) : Registry :=
  let kept := r.filter fun c => (renames.lookup c.qualifiedName).isNone
  kept.mapEntries (ClassDefinition.mapRefs (redirect renames)) fun _ => rfl

/-- Something is found for the first component of each pair of a list. -/
theorem isSome_lookup_of_mem {k v : String} {l : List (String × String)} (h : (k, v) ∈ l) :
    (l.lookup k).isSome := by
  induction l with
  | nil => simp at h
  | cons p l ih =>
    obtain ⟨a, b⟩ := p
    by_cases hk : k = a
    · subst hk
      simp
    · have hmem : (k, v) ∈ l := by simpa [hk] using h
      have hne : (k == a) = false := by simpa using hk
      simpa [List.lookup_cons, hne] using ih hmem

/-- A pass that finds identical classes leaves fewer classes. -/
theorem Registry.size_rename_lt {r : Registry} {root : Option String}
    (h : r.duplicates root ≠ []) : (r.rename (r.duplicates root)).size < r.size := by
  obtain ⟨p, hp⟩ := List.exists_mem_of_ne_nil _ h
  have hp' := hp
  simp only [Registry.duplicates, List.mem_filterMap] at hp
  obtain ⟨c, hc, hcp⟩ := hp
  split at hcp
  · simp at hcp
  · simp only [Option.some.injEq] at hcp
    simp only [Registry.rename, Keyed.size, Keyed.mapEntries, Keyed.filter, List.length_map]
    refine List.length_filter_lt_length_iff_exists.2 ⟨c, hc, ?_⟩
    have := isSome_lookup_of_mem (hcp ▸ hp')
    simpa [Option.isNone_iff_eq_none, Option.isSome_iff_ne_none] using this

/-- The name of the class that a type is a reference to. -/
def FieldType.className? : FieldType → Option String
  | .objectRef name => some name
  | _ => none

/-- A type and a registry after merging, where `root` names the class that is kept in any
case. -/
def mergeFrom (root : Option String) (type : FieldType) (r : Registry) :
    Schema :=
  let renames := r.duplicates root
  if h : renames = [] then ⟨type, r⟩
  else
    have : (r.rename renames).size < r.size := Registry.size_rename_lt h
    mergeFrom root (type.mapRefs (redirect renames)) (r.rename renames)
termination_by r.size

/-- The schema with identical classes merged. -/
def merge (s : Schema) : Schema := mergeFrom s.root.className? s.root s.registry

end Specimen.Schema
