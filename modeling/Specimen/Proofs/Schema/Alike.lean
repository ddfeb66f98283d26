import Mathlib.Data.List.Forall2
import Specimen.Proofs.Schema.Representative

set_option autoImplicit false

/-! # Which classes are merged, and into which

Merging goes in passes, and each pass picks its survivors from what the passes before it have
left. This file says what comes out without mentioning passes. Two names are `Alike` if every
equivalence relation relates them that relates classes with the same fields up to related
references; this is the least such relation (`identifies_alike`). `merge_canonical` says that
two classes have one representative exactly if they are alike, so the groups depend neither on
the order of the registry nor on the root, and that of each group the root's class is kept if it
is one of them, and otherwise the class that was registered first.

* `representative_alike`: no pass joins classes that are not alike, because a reference that was
  redirected earlier leads to a class that is alike.
* `representative_eq_of_alike`: having one representative is itself a relation as above, because
  no two classes that are left are identical.
* `rank_representative_le`: passes keep the registry's order, so the first survivor of a pass
  among the survivors of earlier ones is the first of all of them.
-/

namespace Specimen.Schema

/-! ## Classes that are alike -/

/-- Two types are equal up to the replacement of related references, under lists or not. -/
inductive FieldType.Related (E : String → String → Prop) : FieldType → FieldType → Prop
  | same (t : FieldType) : Related E t t
  | listOf {t u : FieldType} (h : Related E t u) : Related E (.listOf t) (.listOf u)
  | objectRef {m n : String} (h : E m n) : Related E (.objectRef m) (.objectRef n)

/-- Two lists of fields have the same names, position by position, and related types. -/
def SameFields (E : String → String → Prop) (fs gs : List (String × FieldType)) : Prop :=
  List.Forall₂ (fun p q => p.1 = q.1 ∧ p.2.Related E q.2) fs gs

/-- An equivalence relation on names that relates two classes whenever they have the same fields
up to related references. -/
structure Registry.Identifies (r : Registry) (E : String → String → Prop) : Prop where
  equivalence : Equivalence E
  classes : ∀ c ∈ r.toList, ∀ d ∈ r.toList,
    SameFields E c.signature d.signature → E c.qualifiedName d.qualifiedName

/-- Two names are alike if all such relations relate them. -/
def Registry.Alike (r : Registry) (m n : String) : Prop := ∀ E, r.Identifies E → E m n

section Related

variable {E F : String → String → Prop} {t u v : FieldType}

theorem FieldType.Related.mono (hEF : ∀ m n, E m n → F m n) (h : t.Related E u) :
    t.Related F u := by
  induction h with
  | same t => exact .same t
  | listOf _ ih => exact .listOf ih
  | objectRef h => exact .objectRef (hEF _ _ h)

theorem FieldType.Related.symm (hE : Equivalence E) (h : t.Related E u) : u.Related E t := by
  induction h with
  | same t => exact .same t
  | listOf _ ih => exact .listOf ih
  | objectRef h => exact .objectRef (hE.symm h)

theorem FieldType.Related.trans (hE : Equivalence E) (h : t.Related E u) (h' : u.Related E v) :
    t.Related E v := by
  induction h generalizing v with
  | same t => exact h'
  | listOf h ih =>
      cases h' with
      | same => exact .listOf h
      | listOf h' => exact .listOf (ih h')
  | objectRef h =>
      cases h' with
      | same => exact .objectRef h
      | objectRef h' => exact .objectRef (hE.trans h h')

/-- Redirecting references to related names gives a related type. -/
theorem FieldType.related_mapRefs {f : String → String} (hf : ∀ n, E (f n) n) (t : FieldType) :
    (t.mapRefs f).Related E t := by
  induction t with
  | listOf item ih => exact .listOf ih
  | objectRef n => exact .objectRef (hf n)
  | _ => exact .same _

/-- Types that are related by having one image become equal. -/
theorem FieldType.Related.mapRefs_eq {f : String → String}
    (h : t.Related (fun m n => f m = f n) u) : t.mapRefs f = u.mapRefs f := by
  induction h with
  | same t => rfl
  | listOf _ ih => exact congrArg FieldType.listOf ih
  | objectRef h => exact congrArg FieldType.objectRef h

theorem SameFields.refl (E : String → String → Prop) (fs : List (String × FieldType)) :
    SameFields E fs fs :=
  List.forall₂_same.mpr (fun p _ => ⟨rfl, .same p.2⟩)

theorem SameFields.mono {fs gs : List (String × FieldType)} (hEF : ∀ m n, E m n → F m n)
    (h : SameFields E fs gs) : SameFields F fs gs :=
  List.Forall₂.imp (fun _ _ hpq => ⟨hpq.1, hpq.2.mono hEF⟩) h

theorem SameFields.redirectSignature_eq {f : String → String} {fs gs : List (String × FieldType)}
    (h : SameFields (fun m n => f m = f n) fs gs) :
    redirectSignature f fs = redirectSignature f gs := by
  induction h with
  | nil => rfl
  | cons hpq _ ih => exact congrArg₂ List.cons (Prod.ext hpq.1 hpq.2.mapRefs_eq) ih

/-- Fields that are the same up to related references were so before references were redirected
to related names. -/
theorem SameFields.of_redirectSignature {f : String → String} {fs gs : List (String × FieldType)}
    (hE : Equivalence E) (hf : ∀ n, E (f n) n)
    (h : SameFields E (redirectSignature f fs) (redirectSignature f gs)) : SameFields E fs gs := by
  unfold SameFields redirectSignature at h
  rw [List.forall₂_map_left_iff, List.forall₂_map_right_iff] at h
  refine List.Forall₂.imp (fun p q hpq => ⟨hpq.1, ?_⟩) h
  have hp : p.2.Related E (p.2.mapRefs f) := (FieldType.related_mapRefs hf p.2).symm hE
  have hq : (q.2.mapRefs f).Related E q.2 := FieldType.related_mapRefs hf q.2
  exact (hp.trans hE hpq.2).trans hE hq

end Related

namespace Registry

variable {r r' : Registry} {f : String → String}

/-- **Being alike is the least** relation of its kind: it is one, and `Alike` says that it is
below all others. -/
theorem identifies_alike (r : Registry) : r.Identifies r.Alike where
  equivalence :=
    { refl := fun n _ hE => hE.equivalence.refl n
      symm := fun h E hE => hE.equivalence.symm (h E hE)
      trans := fun h h' E hE => hE.equivalence.trans (h E hE) (h' E hE) }
  classes c hc d hd h E hE := hE.classes c hc d hd (h.mono (fun _ _ hmn => hmn E hE))

/-- Identical classes are alike. -/
theorem alike_of_signature_eq {c d : ClassDefinition} (hc : c ∈ r.toList) (hd : d ∈ r.toList)
    (h : c.signature = d.signature) : r.Alike c.qualifiedName d.qualifiedName :=
  r.identifies_alike.classes c hc d hd (h ▸ SameFields.refl _ _)

/-- Being alike depends on which classes are registered, not on their order. -/
theorem Alike.of_perm (hperm : r.toList.Perm r'.toList) {m n : String} (h : r.Alike m n) :
    r'.Alike m n := by
  intro E hE
  refine h E ⟨hE.equivalence, fun c hc d hd => ?_⟩
  exact hE.classes c (hperm.mem_iff.mp hc) d (hperm.mem_iff.mp hd)

/-! ## What is merged is alike -/

/-- A pass redirects each name to one that is alike. -/
theorem redirect_duplicates_alike (r : Registry) (root : Option String) (n : String) :
    r.Alike (redirect (r.duplicates root) n) n := by
  by_cases hn : n ∈ r.keys
  · obtain ⟨c, hc, rfl⟩ := List.mem_map.mp hn
    obtain ⟨d, hd, hname, hsig⟩ := survivor_spec root hc
    rw [redirect_duplicates hc, hname]
    exact alike_of_signature_eq hd hc hsig
  · rw [redirect_duplicates_of_not_mem hn]
    exact r.identifies_alike.equivalence.refl n

/-- Names that are alike in what is left are alike in the beginning, if names are represented by
names that are alike. -/
theorem Represents.alike (h : r.Represents r' f) (hf : ∀ n, r.Alike (f n) n) {m n : String}
    (hmn : r'.Alike m n) : r.Alike m n := by
  have hr := r.identifies_alike
  refine hmn r.Alike ⟨hr.equivalence, fun c' hc' d' hd' hfields => ?_⟩
  obtain ⟨c, hc, _, rfl⟩ := h.mem_iff.mp hc'
  obtain ⟨d, hd, _, rfl⟩ := h.mem_iff.mp hd'
  exact hr.classes c hc d hd (hfields.of_redirectSignature hr.equivalence hf)

end Registry

section Passes

variable {root : Option String}

/-- **A name and its representative are alike.** -/
theorem representative_alike (root : Option String) (r : Registry) (n : String) :
    r.Alike (representativeFrom root r n) n := by
  induction r using pass_induction root generalizing n with
  | done r h =>
      rw [representativeFrom_of_eq_nil h]
      exact r.identifies_alike.equivalence.refl n
  | pass r h ih =>
      rw [representativeFrom_of_ne_nil h, Function.comp_apply]
      -- being alike after the pass is being alike before it, since the pass itself only
      -- redirected names to ones that are alike
      have hpass := r.redirect_duplicates_alike root
      have hrest := (r.represents_pass root).alike hpass (ih (redirect (r.duplicates root) n))
      exact r.identifies_alike.equivalence.trans hrest (hpass n)

/-- **Names that are alike have one representative.** -/
theorem representative_eq_of_alike (root : Option String) (r : Registry) {m n : String}
    (h : r.Alike m n) : representativeFrom root r m = representativeFrom root r n := by
  have hrep := represents_mergeFrom root .null r
  have hnodup := duplicates_mergeFrom root .null r
  refine h (fun m n => representativeFrom root r m = representativeFrom root r n)
    ⟨⟨fun _ => rfl, Eq.symm, Eq.trans⟩, fun c hc d hd hfields => ?_⟩
  -- the representatives are left at the end, where identical classes are one class
  obtain ⟨c', hc', hcc', hfixc, hsigc⟩ := hrep.kept c hc
  obtain ⟨d', hd', hdd', hfixd, hsigd⟩ := hrep.kept d hd
  have hsig : (c'.mapRefs (representativeFrom root r)).signature
      = (d'.mapRefs (representativeFrom root r)).signature := by
    rw [ClassDefinition.signature_mapRefs, ClassDefinition.signature_mapRefs, hsigc, hsigd]
    exact hfields.redirectSignature_eq
  have hname := Registry.eq_of_signature_eq_of_duplicates_eq_nil hnodup
    (hrep.mem_iff.mpr ⟨c', hc', hfixc, rfl⟩) (hrep.mem_iff.mpr ⟨d', hd', hfixd, rfl⟩) hsig
  rw [hcc', hdd']
  exact hname

theorem representative_eq_iff_alike (root : Option String) (r : Registry) (m n : String) :
    representativeFrom root r m = representativeFrom root r n ↔ r.Alike m n := by
  have hequiv := r.identifies_alike.equivalence
  constructor
  · intro h
    have hm := hequiv.symm (representative_alike root r m)
    rw [h] at hm
    exact hequiv.trans hm (representative_alike root r n)
  · exact representative_eq_of_alike root r

/-! ## Which class is kept -/

theorem FieldType.className?_eq_some_iff {t : FieldType} {n : String} :
    t.className? = some n ↔ t = .objectRef n := by
  cases t <;> simp [FieldType.className?]

/-- The class that the root refers to represents itself. -/
theorem representativeFrom_root {n : String} (hroot : root = some n) (r : Registry) :
    representativeFrom root r n = n := by
  induction r using pass_induction root with
  | done r h => rw [representativeFrom_of_eq_nil h]; rfl
  | pass r h ih =>
      have hpass : redirect (r.duplicates root) n = n := by
        by_cases hn : n ∈ r.keys
        · -- the root's class is the first by seniority, and has its own signature
          obtain ⟨c, hc, rfl⟩ := List.mem_map.mp hn
          have hfind : r.find? c.qualifiedName = some c := Keyed.find?_eq_some_iff.mpr ⟨hc, rfl⟩
          rw [Registry.redirect_duplicates hc]
          simp [Registry.survivor, Registry.bySeniority, hroot, hfind]
        · exact Registry.redirect_duplicates_of_not_mem hn
      rw [representativeFrom_of_ne_nil h, Function.comp_apply, hpass, ih]

/-- The classes of a registry stand in the order of their ranks. -/
def Registry.Ranked (r : Registry) (rank : String → Nat) : Prop :=
  r.toList.Pairwise fun c d => rank c.qualifiedName ≤ rank d.qualifiedName

/-- The position of a name is a rank. -/
theorem Registry.ranked_idxOf (r : Registry) : r.Ranked r.keys.idxOf := by
  have hkeys : r.keys.Pairwise (fun m n => r.keys.idxOf m ≤ r.keys.idxOf n) := by
    refine List.pairwise_iff_getElem.mpr (fun i j hi hj hij => ?_)
    have hnodup : r.keys.Nodup := r.nodup
    rw [hnodup.idxOf_getElem i hi, hnodup.idxOf_getElem j hj]
    exact Nat.le_of_lt hij
  exact (List.pairwise_map (f := ClassDefinition.qualifiedName)).mp hkeys

theorem Registry.Represents.ranked {r r' : Registry} {f : String → String}
    (h : r.Represents r' f) {rank : String → Nat} (hr : r.Ranked rank) : r'.Ranked rank := by
  unfold Registry.Ranked
  rw [h.classes, List.pairwise_map]
  exact hr.filter _

/-- Unless it is the root's class, the survivor of a class does not come behind the class. -/
theorem Registry.rank_survivor_le {r : Registry} {rank : String → Nat} (hr : r.Ranked rank)
    {c : ClassDefinition} (hc : c ∈ r.toList) (hroot : root ≠ some (r.survivor root c)) :
    rank (r.survivor root c) ≤ rank c.qualifiedName := by
  obtain ⟨d, hd, hname⟩ := Registry.exists_survivor root hc
  rw [hname] at hroot ⊢
  rw [Registry.bySeniority, List.find?_append, Option.or_eq_some_iff] at hd
  rcases hd with hd | ⟨_, hd⟩
  · -- the survivor is the root's class
    have hmem := List.mem_of_find?_eq_some hd
    obtain ⟨n, hn, hfind⟩ := Option.bind_eq_some_iff.mp (Option.mem_toList.mp hmem)
    exact absurd (hn.trans (congrArg some (Keyed.find?_eq_some_iff.mp hfind).2.symm)) hroot
  · obtain ⟨_, before, after, hsplit, hbefore⟩ := List.find?_eq_some_iff_append.mp hd
    rw [hsplit] at hc
    unfold Registry.Ranked at hr
    rw [hsplit, List.pairwise_append] at hr
    -- the survivor is the first class with its signature, so `c` cannot stand in front of it
    rcases List.mem_append.mp hc with hc | hc
    · have hno := hbefore c hc
      simp at hno
    · rcases List.mem_cons.mp hc with rfl | hc
      · exact Nat.le_refl _
      · exact (List.pairwise_cons.mp hr.2.1).1 c hc

/-- **Unless it is the root's class, a representative comes first** among the classes that it
represents. -/
theorem rank_representative_le {rank : String → Nat} (r : Registry) (hr : r.Ranked rank)
    {n : String} (hn : n ∈ r.keys) (hroot : root ≠ some (representativeFrom root r n)) :
    rank (representativeFrom root r n) ≤ rank n := by
  induction r using pass_induction root generalizing n with
  | done r h =>
      rw [representativeFrom_of_eq_nil h]
      exact Nat.le_refl _
  | pass r h ih =>
      rw [representativeFrom_of_ne_nil h, Function.comp_apply] at hroot ⊢
      have hpass := r.represents_pass root
      have hrest := ih (hpass.ranked hr) ((hpass.mem_keys_iff n).mpr hn) hroot
      refine Nat.le_trans hrest ?_
      obtain ⟨c, hc, rfl⟩ := List.mem_map.mp hn
      rw [Registry.redirect_duplicates hc] at hroot ⊢
      refine Registry.rank_survivor_le hr hc (fun hsurvivor => hroot ?_)
      -- had the pass led to the root's class, the later ones would have stayed there
      rw [representativeFrom_root hsurvivor]
      exact hsurvivor

end Passes

/-! ## The groups and their representatives -/

/-- The class `k` is the one of the group of `n` that merging is to keep: the root's class if it
is in the group, and otherwise the class of the group that was registered first. -/
structure IsSenior (s : Schema) (n k : String) : Prop where
  registered : k ∈ s.registry.keys
  alike : s.registry.Alike k n
  root : ∀ m, s.root = .objectRef m → s.registry.Alike m n → k = m
  first : (∀ m, s.root = .objectRef m → ¬ s.registry.Alike m n) →
    ∀ m ∈ s.registry.keys, s.registry.Alike m n →
      s.registry.keys.idxOf k ≤ s.registry.keys.idxOf m

theorem isSenior_representative (s : Schema) {n : String} (hn : n ∈ s.registry.keys) :
    IsSenior s n (s.representative n) where
  registered := s.represents_merge.keys_subset ((s.represents_merge.mem_keys_iff n).mpr hn)
  alike := representative_alike _ _ n
  root m hm hmn := by
    have hsame : s.representative m = s.representative n := representative_eq_of_alike _ _ hmn
    rw [← hsame]
    exact representativeFrom_root (FieldType.className?_eq_some_iff.mpr hm) s.registry
  first hroot m hm hmn := by
    have hsame : s.representative m = s.representative n := representative_eq_of_alike _ _ hmn
    rw [← hsame]
    refine rank_representative_le s.registry s.registry.ranked_idxOf hm (fun hclass => ?_)
    -- the representative is in the group, so it is not the root's class
    refine hroot _ (FieldType.className?_eq_some_iff.mp hclass) ?_
    show s.registry.Alike (s.representative m) n
    rw [hsame]
    exact representative_alike _ _ n

/-- **What is merged is canonical.** A merged schema is the schema with each name replaced by its
representative and only representatives kept. Names have one representative exactly if they are
alike, which is the least relation of its kind; so schemas with the same classes in whatever
order and with whatever roots have the same groups. And the representative of a group is the
root's class if it is in the group, and otherwise the class of the group registered first. -/
theorem merge_canonical (s : Schema) :
    s.registry.Identifies s.registry.Alike ∧
    s.merge.root = s.root.mapRefs s.representative ∧
    s.merge.registry.toList
      = (s.registry.toList.filter fun c => s.representative c.qualifiedName = c.qualifiedName).map
          (ClassDefinition.mapRefs s.representative) ∧
    (∀ m n, s.representative m = s.representative n ↔ s.registry.Alike m n) ∧
    (∀ s' : Schema, s'.registry.toList.Perm s.registry.toList →
      ∀ m n, s'.representative m = s'.representative n ↔ s.representative m = s.representative n) ∧
    (∀ n ∈ s.registry.keys, IsSenior s n (s.representative n)) := by
  have hgroups : ∀ (t : Schema) (m n : String),
      t.representative m = t.representative n ↔ t.registry.Alike m n :=
    fun t => representative_eq_iff_alike _ _
  refine ⟨s.registry.identifies_alike, s.root_merge, s.represents_merge.classes, hgroups s,
    fun s' hperm m n => ?_, fun n hn => isSenior_representative s hn⟩
  rw [hgroups s', hgroups s]
  exact ⟨Registry.Alike.of_perm hperm, Registry.Alike.of_perm hperm.symm⟩

/-- Two classes that refer to nothing but themselves have the same structure at every depth and
are not merged all the same: nothing makes them alike. -/
example : Registry.duplicates ⟨[⟨"p.A", Keyed.ofList [("next", .objectRef "p.A")]⟩,
    ⟨"p.B", Keyed.ofList [("next", .objectRef "p.B")]⟩], by decide⟩ none = [] := by
  decide

end Specimen.Schema
