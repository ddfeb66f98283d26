import Mathlib.Data.List.Basic
import Specimen.Proofs.Schema.Insertion
import Specimen.Schema.Merge

set_option autoImplicit false

/-! # The representative of a class

Merging keeps some classes and redirects the references to all others. Which class stands for
which is not part of the merged schema; this file composes the redirections of all passes into
one map, the `representative` of each name, and proves that merging is nothing but applying it
(`Registry.Represents`): the classes that are their own representatives are kept, in order, all
references go to representatives, and a class has the same fields as its representative once
their references are redirected.

`Registry.represents_pass` is the step, one pass; `Registry.Represents.trans` puts passes
together; `represents_mergeFrom` is the run.
-/

namespace Specimen.Schema

/-! ## Redirecting references -/

theorem FieldType.mapRefs_id (t : FieldType) : t.mapRefs id = t := by
  induction t with
  | listOf item ih => exact congrArg FieldType.listOf ih
  | _ => rfl

theorem FieldType.mapRefs_mapRefs (f g : String → String) (t : FieldType) :
    (t.mapRefs f).mapRefs g = t.mapRefs (g ∘ f) := by
  induction t with
  | listOf item ih => exact congrArg FieldType.listOf ih
  | _ => rfl

/-- The entries of a signature with their references redirected. -/
def redirectSignature (f : String → String) (entries : List (String × FieldType)) :
    List (String × FieldType) :=
  entries.map fun (name, t) => (name, t.mapRefs f)

theorem redirectSignature_redirectSignature (f g : String → String)
    (entries : List (String × FieldType)) :
    redirectSignature g (redirectSignature f entries) = redirectSignature (g ∘ f) entries := by
  rw [redirectSignature, redirectSignature, List.map_map]
  exact List.map_congr_left
    (fun p _ => congrArg (Prod.mk p.1) (FieldType.mapRefs_mapRefs f g p.2))

theorem ClassDefinition.signature_mapRefs (f : String → String) (c : ClassDefinition) :
    (c.mapRefs f).signature = redirectSignature f c.signature := rfl

theorem ClassDefinition.eq_of_signature_eq {c d : ClassDefinition}
    (hname : c.qualifiedName = d.qualifiedName) (hsig : c.signature = d.signature) : c = d := by
  cases c
  cases d
  obtain rfl : _ = _ := Keyed.eq_of_toList_eq hsig
  obtain rfl : _ = _ := hname
  rfl

theorem ClassDefinition.mapRefs_id (c : ClassDefinition) : c.mapRefs id = c := by
  refine ClassDefinition.eq_of_signature_eq rfl ?_
  rw [ClassDefinition.signature_mapRefs, redirectSignature]
  conv_rhs => rw [← List.map_id c.signature]
  exact List.map_congr_left (fun p _ => congrArg (Prod.mk p.1) (FieldType.mapRefs_id p.2))

theorem ClassDefinition.mapRefs_mapRefs (f g : String → String) (c : ClassDefinition) :
    (c.mapRefs f).mapRefs g = c.mapRefs (g ∘ f) := by
  refine ClassDefinition.eq_of_signature_eq rfl ?_
  simp only [ClassDefinition.signature_mapRefs, redirectSignature_redirectSignature]

/-! ## The survivor of a pass -/

namespace Registry

variable {r : Registry} {root : Option String}

/-- Two registered classes of one name are one class. -/
theorem eq_of_qualifiedName_eq {c d : ClassDefinition} (hc : c ∈ r.toList) (hd : d ∈ r.toList)
    (h : c.qualifiedName = d.qualifiedName) : c = d := by
  have hfind := Keyed.find?_eq_some_iff.mpr ⟨hc, h⟩
  rw [Keyed.find?_eq_some_iff.mpr ⟨hd, rfl⟩] at hfind
  exact (Option.some.inj hfind).symm

theorem mem_bySeniority {d : ClassDefinition} : d ∈ r.bySeniority root ↔ d ∈ r.toList := by
  rw [bySeniority, List.mem_append]
  constructor
  · rintro (h | h)
    · obtain ⟨n, _, hn⟩ := Option.bind_eq_some_iff.mp (Option.mem_toList.mp h)
      exact (Keyed.find?_eq_some_iff.mp hn).1
    · exact h
  · exact Or.inr

/-- The survivor of a registered class is the first class by seniority with its signature. -/
theorem exists_survivor (root : Option String) {c : ClassDefinition} (hc : c ∈ r.toList) :
    ∃ d, (r.bySeniority root).find? (fun d => d.signature == c.signature) = some d ∧
      r.survivor root c = d.qualifiedName := by
  cases h : (r.bySeniority root).find? (fun d => d.signature == c.signature) with
  | none =>
      have hno := List.find?_eq_none.mp h c (mem_bySeniority.mpr hc)
      simp at hno
  | some d => exact ⟨d, rfl, by rw [survivor, h]⟩

/-- The survivor is registered and has the same fields. -/
theorem survivor_spec (root : Option String) {c : ClassDefinition} (hc : c ∈ r.toList) :
    ∃ d ∈ r.toList, r.survivor root c = d.qualifiedName ∧ d.signature = c.signature := by
  obtain ⟨d, hd, hname⟩ := exists_survivor root hc
  exact ⟨d, mem_bySeniority.mp (List.mem_of_find?_eq_some hd), hname,
    by simpa using List.find?_some hd⟩

/-- Identical classes have one survivor. -/
theorem survivor_congr {c d : ClassDefinition} (hc : c ∈ r.toList) (hd : d ∈ r.toList)
    (h : c.signature = d.signature) : r.survivor root c = r.survivor root d := by
  -- both are the first class with the same signature
  obtain ⟨e, he, hce⟩ := exists_survivor root hc
  obtain ⟨e', he', hde'⟩ := exists_survivor root hd
  rw [h, he'] at he
  rw [hce, hde', Option.some.inj he]

/-- A pass that removes nothing is made on a registry without identical classes. -/
theorem eq_of_signature_eq_of_duplicates_eq_nil (h : r.duplicates root = [])
    {c d : ClassDefinition} (hc : c ∈ r.toList) (hd : d ∈ r.toList)
    (hsig : c.signature = d.signature) : c.qualifiedName = d.qualifiedName := by
  have hself : ∀ e ∈ r.toList, r.survivor root e = e.qualifiedName := by
    intro e he
    by_contra hne
    have hnone := List.filterMap_eq_nil_iff.mp h e he
    rw [if_neg hne] at hnone
    cases hnone
  rw [← hself c hc, ← hself d hd, survivor_congr hc hd hsig]

/-! ## The redirection of a pass -/

theorem mem_duplicates {n m : String} :
    (n, m) ∈ r.duplicates root ↔
      ∃ c ∈ r.toList, c.qualifiedName = n ∧ r.survivor root c = m ∧ m ≠ n := by
  rw [duplicates, List.mem_filterMap]
  refine exists_congr (fun c => and_congr_right (fun _ => ?_))
  by_cases h : r.survivor root c = c.qualifiedName
  · rw [if_pos h]
    constructor
    · intro hn
      cases hn
    · rintro ⟨hn, hm, hne⟩
      exact absurd (hm.symm.trans (h.trans hn)) hne
  · rw [if_neg h, Option.some.injEq, Prod.mk.injEq]
    constructor
    · rintro ⟨hn, hm⟩
      exact ⟨hn, hm, fun he => h (hm.trans (he.trans hn.symm))⟩
    · rintro ⟨hn, hm, _⟩
      exact ⟨hn, hm⟩

theorem mem_of_lookup {renames : List (String × String)} {n m : String}
    (h : renames.lookup n = some m) : (n, m) ∈ renames := by
  obtain ⟨before, after, hsplit, _⟩ := List.lookup_eq_some_iff.mp h
  rw [hsplit]
  exact List.mem_append_right _ List.mem_cons_self

/-- A pass sends the name of a registered class to its survivor. -/
theorem redirect_duplicates {c : ClassDefinition} (hc : c ∈ r.toList) :
    redirect (r.duplicates root) c.qualifiedName = r.survivor root c := by
  unfold redirect
  cases h : (r.duplicates root).lookup c.qualifiedName with
  | none =>
      -- what is not looked up is its own survivor
      by_contra hne
      have hmem := mem_duplicates.mpr ⟨c, hc, rfl, rfl, Ne.symm hne⟩
      have hsome := isSome_lookup_of_mem hmem
      rw [h] at hsome
      cases hsome
  | some m =>
      -- what is looked up was put in for the class of that name, which is `c`
      obtain ⟨d, hd, hname, hm, _⟩ := mem_duplicates.mp (mem_of_lookup h)
      rw [eq_of_qualifiedName_eq hc hd hname.symm]
      exact hm.symm

/-- A pass leaves names alone that are not registered. -/
theorem redirect_duplicates_of_not_mem {n : String} (hn : n ∉ r.keys) :
    redirect (r.duplicates root) n = n := by
  unfold redirect
  cases h : (r.duplicates root).lookup n with
  | none => rfl
  | some m =>
      obtain ⟨d, hd, rfl, _⟩ := mem_duplicates.mp (mem_of_lookup h)
      exact absurd (Keyed.key_mem_keys hd) hn

/-- A pass removes the classes that it redirects, and no others. -/
theorem isNone_lookup_duplicates (n : String) :
    ((r.duplicates root).lookup n).isNone = true ↔ redirect (r.duplicates root) n = n := by
  unfold redirect
  cases h : (r.duplicates root).lookup n with
  | none => simp
  | some m =>
      obtain ⟨_, _, _, _, hne⟩ := mem_duplicates.mp (mem_of_lookup h)
      simpa using hne

/-! ## Representation -/

/-- The registry `r'` is what is left of `r` when `f` gives the representative of each name. -/
structure Represents (r r' : Registry) (f : String → String) : Prop where
  /-- A name that is not registered stays. -/
  outside : ∀ n, n ∉ r.keys → f n = n
  /-- The classes that are their own representatives are kept in order, with their references
  redirected. -/
  classes : r'.toList
    = (r.toList.filter fun c => f c.qualifiedName = c.qualifiedName).map (ClassDefinition.mapRefs f)
  /-- Each class is represented by one that is kept and has the same fields up to redirection. -/
  kept : ∀ c ∈ r.toList, ∃ d ∈ r.toList, f c.qualifiedName = d.qualifiedName ∧
    f d.qualifiedName = d.qualifiedName ∧
    redirectSignature f d.signature = redirectSignature f c.signature

namespace Represents

variable {r' r'' : Registry} {f g : String → String}

theorem mem_iff (h : r.Represents r' f) {c' : ClassDefinition} :
    c' ∈ r'.toList ↔
      ∃ c ∈ r.toList, f c.qualifiedName = c.qualifiedName ∧ c.mapRefs f = c' := by
  rw [h.classes, List.mem_map]
  simp only [List.mem_filter, decide_eq_true_eq, and_assoc]

theorem keys_subset (h : r.Represents r' f) : r'.keys ⊆ r.keys := by
  intro n hn
  obtain ⟨c', hc', rfl⟩ := List.mem_map.mp hn
  obtain ⟨c, hc, _, rfl⟩ := h.mem_iff.mp hc'
  show c.qualifiedName ∈ r.keys
  exact Keyed.key_mem_keys hc

/-- A registered name that is its own representative stays registered. -/
theorem mem_keys (h : r.Represents r' f) {c : ClassDefinition} (hc : c ∈ r.toList)
    (hfix : f c.qualifiedName = c.qualifiedName) : c.qualifiedName ∈ r'.keys :=
  Keyed.key_mem_keys (x := c.mapRefs f) (h.mem_iff.mpr ⟨c, hc, hfix, rfl⟩)

/-- A name is registered exactly when its representative is. -/
theorem mem_keys_iff (h : r.Represents r' f) (n : String) :
    f n ∈ r'.keys ↔ n ∈ r.keys := by
  constructor
  · intro hn
    by_contra hout
    rw [h.outside n hout] at hn
    exact hout (h.keys_subset hn)
  · intro hn
    obtain ⟨c, hc, rfl⟩ := List.mem_map.mp hn
    obtain ⟨d, hd, hcd, hfix, _⟩ := h.kept c hc
    rw [hcd]
    exact h.mem_keys hd hfix

/-- Representing nothing by something else changes nothing. -/
theorem refl (r : Registry) : r.Represents r id where
  outside _ _ := rfl
  classes := by
    have hmap : r.toList.map (ClassDefinition.mapRefs id) = r.toList.map id :=
      List.map_congr_left (fun c _ => c.mapRefs_id)
    simp [hmap]
  kept c hc := ⟨c, hc, rfl, rfl, rfl⟩

/-- A class is kept by both of two steps exactly if the two together lead back to it. -/
theorem fixed_iff (h : r.Represents r' f) (h' : r'.Represents r'' g) {c : ClassDefinition}
    (hc : c ∈ r.toList) :
    g (f c.qualifiedName) = c.qualifiedName ↔
      g c.qualifiedName = c.qualifiedName ∧ f c.qualifiedName = c.qualifiedName := by
  constructor
  · intro hgf
    -- the name that is reached in the end is one that the first step has kept
    obtain ⟨d, hd, hcd, hdfix, _⟩ := h.kept c hc
    obtain ⟨e', he', hde, _⟩ := h'.kept _ (h.mem_iff.mpr ⟨d, hd, hdfix, rfl⟩)
    obtain ⟨e, _, hefix, rfl⟩ := h.mem_iff.mp he'
    have hec : e.qualifiedName = c.qualifiedName :=
      calc e.qualifiedName = g d.qualifiedName := hde.symm
        _ = g (f c.qualifiedName) := by rw [hcd]
        _ = c.qualifiedName := hgf
    rw [hec] at hefix
    rw [hefix] at hgf
    exact ⟨hgf, hefix⟩
  · rintro ⟨hg, hf⟩
    rw [hf, hg]

/-- **Representations compose.** -/
theorem trans (h : r.Represents r' f) (h' : r'.Represents r'' g) : r.Represents r'' (g ∘ f) where
  outside n hn := by
    rw [Function.comp_apply, h.outside n hn]
    exact h'.outside n (fun hn' => hn (h.keys_subset hn'))
  classes := by
    have hfilter : r.toList.filter (fun c => decide (g (f c.qualifiedName) = c.qualifiedName))
        = r.toList.filter (fun c => decide (g c.qualifiedName = c.qualifiedName)
            && decide (f c.qualifiedName = c.qualifiedName)) := by
      refine List.filter_congr (fun c hc => ?_)
      rw [← Bool.decide_and]
      exact decide_eq_decide.mpr (h.fixed_iff h' hc)
    rw [h'.classes, h.classes, List.filter_map, List.map_map, List.filter_filter]
    simp only [Function.comp_apply]
    rw [hfilter]
    exact List.map_congr_left (fun c _ => c.mapRefs_mapRefs f g)
  kept c hc := by
    -- the representative `d` of the first step goes on to `e'`, which is what is left of some `e`
    obtain ⟨d, hd, hcd, hfix, hsig⟩ := h.kept c hc
    obtain ⟨e', he', hde, hfix', hsig'⟩ := h'.kept _ (h.mem_iff.mpr ⟨d, hd, hfix, rfl⟩)
    obtain ⟨e, he, hefix, rfl⟩ := h.mem_iff.mp he'
    refine ⟨e, he, ?_, ?_, ?_⟩
    · rw [Function.comp_apply, hcd]
      exact hde
    · rw [Function.comp_apply, hefix]
      exact hfix'
    · simp only [ClassDefinition.signature_mapRefs, redirectSignature_redirectSignature] at hsig'
      rw [hsig', ← redirectSignature_redirectSignature, hsig, redirectSignature_redirectSignature]

end Represents

/-- **One pass** represents each registered class by its survivor. -/
theorem represents_pass (r : Registry) (root : Option String) :
    r.Represents (r.rename (r.duplicates root)) (redirect (r.duplicates root)) where
  outside _ hn := redirect_duplicates_of_not_mem hn
  classes := by
    show (r.toList.filter _).map _ = _
    refine congrArg (List.map _) (List.filter_congr (fun c _ => ?_))
    rw [Bool.eq_iff_iff, decide_eq_true_iff]
    exact isNone_lookup_duplicates c.qualifiedName
  kept c hc := by
    obtain ⟨d, hd, hname, hsig⟩ := survivor_spec root hc
    refine ⟨d, hd, ?_, ?_, by rw [hsig]⟩
    · rw [redirect_duplicates hc, hname]
    · -- the survivor has the signature of `c`, so it survives itself
      rw [redirect_duplicates hd, survivor_congr hd hc hsig, hname]

end Registry

/-! ## All passes -/

/-- The name that stands for each name after merging, where `root` names the class that is kept
in any case: each pass redirects what the passes before it have left. -/
def representativeFrom (root : Option String) (r : Registry) : String → String :=
  let renames := r.duplicates root
  if h : renames = [] then id
  else
    have : (r.rename renames).size < r.size := Registry.size_rename_lt h
    representativeFrom root (r.rename renames) ∘ redirect renames
termination_by r.size

section Passes

variable {root : Option String} {r : Registry}

theorem representativeFrom_of_eq_nil (h : r.duplicates root = []) :
    representativeFrom root r = id := by
  rw [representativeFrom]
  exact dif_pos h

theorem representativeFrom_of_ne_nil (h : r.duplicates root ≠ []) :
    representativeFrom root r
      = representativeFrom root (r.rename (r.duplicates root)) ∘ redirect (r.duplicates root) := by
  rw [representativeFrom]
  exact dif_neg h

theorem mergeFrom_of_eq_nil (h : r.duplicates root = []) (t : FieldType) :
    mergeFrom root t r = ⟨t, r⟩ := by
  rw [mergeFrom]
  exact dif_pos h

theorem mergeFrom_of_ne_nil (h : r.duplicates root ≠ []) (t : FieldType) :
    mergeFrom root t r
      = mergeFrom root (t.mapRefs (redirect (r.duplicates root)))
          (r.rename (r.duplicates root)) := by
  rw [mergeFrom]
  exact dif_neg h

/-- What holds of a registry without identical classes, and of a registry whenever it holds of
what one pass makes of it, holds of all registries. -/
theorem pass_induction {motive : Registry → Prop} (root : Option String)
    (done : ∀ r, r.duplicates root = [] → motive r)
    (pass : ∀ r, r.duplicates root ≠ [] → motive (r.rename (r.duplicates root)) → motive r)
    (r : Registry) : motive r := by
  by_cases h : r.duplicates root = []
  · exact done r h
  · exact pass r h (pass_induction root done pass (r.rename (r.duplicates root)))
termination_by r.size
decreasing_by exact Registry.size_rename_lt h

/-- Merging ends at a registry without identical classes. -/
theorem duplicates_mergeFrom (root : Option String) (t : FieldType) (r : Registry) :
    (mergeFrom root t r).registry.duplicates root = [] := by
  induction r using pass_induction root generalizing t with
  | done r h => rwa [mergeFrom_of_eq_nil h]
  | pass r h ih =>
      rw [mergeFrom_of_ne_nil h]
      exact ih _

theorem root_mergeFrom (root : Option String) (t : FieldType) (r : Registry) :
    (mergeFrom root t r).root = t.mapRefs (representativeFrom root r) := by
  induction r using pass_induction root generalizing t with
  | done r h => rw [mergeFrom_of_eq_nil h, representativeFrom_of_eq_nil h, FieldType.mapRefs_id]
  | pass r h ih =>
      rw [mergeFrom_of_ne_nil h, representativeFrom_of_ne_nil h, ih, FieldType.mapRefs_mapRefs]

theorem represents_mergeFrom (root : Option String) (t : FieldType) (r : Registry) :
    r.Represents (mergeFrom root t r).registry (representativeFrom root r) := by
  induction r using pass_induction root generalizing t with
  | done r h =>
      rw [mergeFrom_of_eq_nil h, representativeFrom_of_eq_nil h]
      exact Registry.Represents.refl r
  | pass r h ih =>
      rw [mergeFrom_of_ne_nil h, representativeFrom_of_ne_nil h]
      exact (r.represents_pass root).trans (ih _)

end Passes

end Specimen.Schema

namespace Specimen

open Specimen.Schema

/-- The name that stands for each name once a schema is merged. -/
def Schema.representative (s : Schema) : String → String :=
  representativeFrom s.root.className? s.registry

namespace Schema

theorem represents_merge (s : Schema) : s.registry.Represents s.merge.registry s.representative :=
  represents_mergeFrom _ _ _

theorem root_merge (s : Schema) : s.merge.root = s.root.mapRefs s.representative :=
  root_mergeFrom _ _ _

end Schema

end Specimen
