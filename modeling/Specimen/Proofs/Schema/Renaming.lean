import Specimen.Proofs.Schema.Matching

set_option autoImplicit false

/-! # Merging does not look at names

Two schemas may be the same but for the names of classes: position by position they have the same
fields and the same types, with related names in the place of one another, wherever a class is
called by its name or referred to (`Schema.Renamed`). If names are related one to one, merging takes
two such schemas to two such schemas again, and what represents a class in one of them is what
represents it in the other one (`Renamed.merge`, `Renamed.representative`).

The reason is that merging does nothing with names but to compare them. Each step of a pass is
followed on both sides: which class is found under a name, which survives, what is redirected, and
what is left. A one-to-one relation makes all comparisons come out alike.
-/

namespace Specimen.Schema

/-! ## Types -/

/-- Two types are the same but for the names in references, which are related. -/
inductive FieldType.Renamed (N : String → String → Prop) : FieldType → FieldType → Prop
  /-- There is no reference. -/
  | same {t : FieldType} (h : t.reference? = none) : Renamed N t t
  | listOf {t u : FieldType} (h : Renamed N t u) : Renamed N (.listOf t) (.listOf u)
  | objectRef {m n : String} (h : N m n) : Renamed N (.objectRef m) (.objectRef n)

section Types

variable {N : String → String → Prop} {t u : FieldType}

theorem FieldType.Renamed.reference? (h : t.Renamed N u) :
    Option.Rel N t.reference? u.reference? := by
  induction h with
  | same h =>
      rw [h]
      exact .none
  | listOf _ ih => exact ih
  | objectRef h => exact .some h

theorem FieldType.Renamed.className? (h : t.Renamed N u) :
    Option.Rel N t.className? u.className? := by
  cases h with
  | same h =>
      cases t with
      | objectRef n => cases h
      | _ => exact .none
  | listOf _ => exact .none
  | objectRef h => exact .some h

theorem FieldType.Renamed.boxed (h : t.Renamed N u) : t.boxed.Renamed N u.boxed := by
  cases h with
  | same h => exact .same ((FieldType.reference?_boxed t).trans h)
  | listOf h => exact .listOf h
  | objectRef h => exact .objectRef h

/-- A type without a reference has no other name. -/
theorem FieldType.Renamed.eq_of_none (h : t.Renamed N u) (hnone : t.reference? = none) :
    t = u := by
  induction h with
  | same _ => rfl
  | listOf _ ih => rw [ih hnone]
  | objectRef _ => cases hnone

/-- Reading the relation backwards, types are renamed by the converse relation. -/
theorem FieldType.Renamed.flip (h : t.Renamed N u) : u.Renamed (flip N) t := by
  induction h with
  | same h => exact .same h
  | listOf _ ih => exact .listOf ih
  | objectRef h => exact .objectRef h

theorem FieldType.rightUnique_renamed (hN : Relator.RightUnique N) :
    Relator.RightUnique (FieldType.Renamed N) := by
  intro t u v h h'
  induction h generalizing v with
  | same h => exact h'.eq_of_none h
  | listOf hitem ih =>
      cases h' with
      | same hnone => rw [← hitem.eq_of_none hnone]
      | listOf h' => rw [ih h']
  | objectRef h =>
      cases h' with
      | same hnone => cases hnone
      | objectRef h' => rw [hN h h']

/-- Names that are related one to one give types that are. -/
theorem FieldType.biUnique_renamed (hN : Relator.BiUnique N) :
    Relator.BiUnique (FieldType.Renamed N) := by
  refine ⟨fun t u v h h' => ?_, FieldType.rightUnique_renamed hN.2⟩
  have hflip : Relator.RightUnique (flip N) := fun _ _ _ h h' => hN.1 h h'
  exact FieldType.rightUnique_renamed hflip h.flip h'.flip

/-- Redirecting names that are related to names that are related. -/
theorem FieldType.Renamed.mapRefs {f g : String → String} (h : t.Renamed N u)
    (hfg : ∀ m n, N m n → N (f m) (g n)) : (t.mapRefs f).Renamed N (u.mapRefs g) := by
  induction h with
  | @same t h =>
      have hself : ∀ k : String → String, t.mapRefs k = t := by
        intro k
        induction t with
        | listOf item ih => rw [FieldType.mapRefs, ih h]
        | objectRef n => cases h
        | _ => rfl
      rw [hself f, hself g]
      exact .same h
  | listOf _ ih => exact .listOf ih
  | objectRef h => exact .objectRef (hfg _ _ h)

end Types

/-! ## Classes -/

/-- Two classes are the same but for names, which are related. -/
abbrev ClassDefinition.Renamed (N : String → String → Prop) :
    ClassDefinition → ClassDefinition → Prop :=
  ClassDefinition.Matches N (FieldType.Renamed N)

/-- Two schemas are the same but for names, which are related. -/
abbrev Renamed (N : String → String → Prop) : Schema → Schema → Prop :=
  Schema.Matches N (FieldType.Renamed N)

section Classes

variable {N : String → String → Prop}

theorem biUnique_matchingFields {T : FieldType → FieldType → Prop} (hT : Relator.BiUnique T) :
    Relator.BiUnique (MatchingFields T) := by
  refine Relator.BiUnique.forall₂ ⟨fun p q k hp hq => ?_, fun p q k hq hk => ?_⟩
  · exact Prod.ext (hp.1.trans hq.1.symm) (hT.1 hp.2 hq.2)
  · exact Prod.ext (hq.1.symm.trans hk.1) (hT.2 hq.2 hk.2)

/-- Classes are identical exactly if they are under their other names. -/
theorem ClassDefinition.Renamed.signature_eq_iff (hN : Relator.BiUnique N)
    {c c' d d' : ClassDefinition} (hc : c.Renamed N c') (hd : d.Renamed N d') :
    c.signature = d.signature ↔ c'.signature = d'.signature :=
  Relator.rel_eq (biUnique_matchingFields (FieldType.biUnique_renamed hN)) hc.fields hd.fields

theorem ClassDefinition.Renamed.mapRefs {c c' : ClassDefinition} (h : c.Renamed N c')
    {f g : String → String} (hfg : ∀ m n, N m n → N (f m) (g n)) :
    (c.mapRefs f).Renamed N (c'.mapRefs g) := by
  refine ⟨h.name, ?_⟩
  refine List.rel_map (fun p q hpq => ?_) h.fields
  exact ⟨hpq.1, hpq.2.mapRefs hfg⟩

end Classes

/-! ## One pass -/

section Lists

variable {α β : Type} {R : α → β → Prop}

/-- What is looked for is found at the same place on both sides. -/
theorem rel_find? {p : α → Bool} {q : β → Bool} (hpq : ∀ a b, R a b → (p a = true ↔ q b = true))
    {xs : List α} {ys : List β} (h : List.Forall₂ R xs ys) :
    Option.Rel R (xs.find? p) (ys.find? q) := by
  induction h with
  | nil => exact .none
  | @cons a b _ _ hab _ ih =>
      by_cases hp : p a = true
      · rw [List.find?_cons_of_pos hp, List.find?_cons_of_pos ((hpq a b hab).mp hp)]
        exact .some hab
      · rw [List.find?_cons_of_neg hp, List.find?_cons_of_neg (mt (hpq a b hab).mpr hp)]
        exact ih

theorem rel_optionToList {a? : Option α} {b? : Option β} (h : Option.Rel R a? b?) :
    List.Forall₂ R a?.toList b?.toList := by
  cases h with
  | none => exact .nil
  | some hab => exact .cons hab .nil

end Lists

/-- Two redirections are the same but for names. -/
abbrev RenamedPairs (N : String → String → Prop) :
    List (String × String) → List (String × String) → Prop :=
  List.Forall₂ fun p q => N p.1 q.1 ∧ N p.2 q.2

section Pass

variable {N : String → String → Prop} (hN : Relator.BiUnique N)

include hN

theorem rel_lookup {l l' : List (String × String)} (h : RenamedPairs N l l') {m n : String}
    (hmn : N m n) : Option.Rel N (l.lookup m) (l'.lookup n) := by
  induction h with
  | nil => exact .none
  | @cons p q _ _ hpq _ ih =>
      have hkeys : m = p.1 ↔ n = q.1 := Relator.rel_eq hN hmn hpq.1
      rw [List.lookup_cons, List.lookup_cons]
      by_cases hm : m = p.1
      · rw [beq_iff_eq.mpr hm, beq_iff_eq.mpr (hkeys.mp hm)]
        exact .some hpq.2
      · rw [beq_eq_false_iff_ne.mpr hm, beq_eq_false_iff_ne.mpr (mt hkeys.mpr hm)]
        exact ih

theorem rel_redirect {l l' : List (String × String)} (h : RenamedPairs N l l') {m n : String}
    (hmn : N m n) : N (redirect l m) (redirect l' n) := by
  have hlookup := rel_lookup hN h hmn
  unfold redirect
  generalize l.lookup m = found at hlookup ⊢
  generalize l'.lookup n = found' at hlookup ⊢
  cases hlookup with
  | none => exact hmn
  | some hfound => exact hfound

variable {r r' : Registry} (h : List.Forall₂ (ClassDefinition.Renamed N) r.toList r'.toList)
  {root root' : Option String} (hroot : Option.Rel N root root')

include h

theorem rel_registryFind? {m n : String} (hmn : N m n) :
    Option.Rel (ClassDefinition.Renamed N) (r.find? m) (r'.find? n) := by
  refine rel_find? (fun c c' hc => ?_) h
  rw [beq_iff_eq, beq_iff_eq]
  exact Relator.rel_eq hN hc.name hmn

include hroot

theorem rel_bySeniority :
    List.Forall₂ (ClassDefinition.Renamed N) (r.bySeniority root) (r'.bySeniority root') := by
  refine List.rel_append (rel_optionToList ?_) h
  cases hroot with
  | none => exact .none
  | some hmn => exact rel_registryFind? hN h hmn

/-- The same class survives under its other name. -/
theorem rel_survivor {c c' : ClassDefinition} (hc : c.Renamed N c') :
    N (r.survivor root c) (r'.survivor root' c') := by
  have hfind : Option.Rel (ClassDefinition.Renamed N)
      ((r.bySeniority root).find? fun d => d.signature == c.signature)
      ((r'.bySeniority root').find? fun d => d.signature == c'.signature) := by
    refine rel_find? (fun d d' hd => ?_) (rel_bySeniority hN h hroot)
    rw [beq_iff_eq, beq_iff_eq]
    exact hd.signature_eq_iff hN hc
  unfold Registry.survivor
  generalize (r.bySeniority root).find? _ = found at hfind ⊢
  generalize (r'.bySeniority root').find? _ = found' at hfind ⊢
  cases hfind with
  | none => exact hc.name
  | some hd => exact hd.name

/-- The same classes are removed, and for the same others. -/
theorem rel_duplicates : RenamedPairs N (r.duplicates root) (r'.duplicates root') := by
  refine List.rel_filterMap (fun c c' hc => ?_) h
  have hsurvivor := rel_survivor hN h hroot hc
  have hself : r.survivor root c = c.qualifiedName ↔ r'.survivor root' c' = c'.qualifiedName :=
    Relator.rel_eq hN hsurvivor hc.name
  by_cases heq : r.survivor root c = c.qualifiedName
  · rw [if_pos heq, if_pos (hself.mp heq)]
    exact .none
  · rw [if_neg heq, if_neg (mt hself.mpr heq)]
    exact .some ⟨hc.name, hsurvivor⟩

/-- Passes stop at the same time. -/
theorem duplicates_eq_nil_iff : r.duplicates root = [] ↔ r'.duplicates root' = [] := by
  have hpairs := rel_duplicates hN h hroot
  constructor
  · intro hnil
    rw [hnil] at hpairs
    exact List.forall₂_nil_left_iff.mp hpairs
  · intro hnil
    rw [hnil] at hpairs
    exact List.forall₂_nil_right_iff.mp hpairs

omit hroot in
/-- What is left is the same but for names. -/
theorem rel_rename {l l' : List (String × String)} (hl : RenamedPairs N l l') :
    List.Forall₂ (ClassDefinition.Renamed N) (r.rename l).toList (r'.rename l').toList := by
  have hkept : List.Forall₂ (ClassDefinition.Renamed N)
      (r.toList.filter fun c => (l.lookup c.qualifiedName).isNone)
      (r'.toList.filter fun c => (l'.lookup c.qualifiedName).isNone) := by
    refine List.rel_filter (fun c c' hc => ?_) h
    have hlookup := rel_lookup hN hl hc.name
    change (l.lookup c.qualifiedName).isNone = true ↔ (l'.lookup c'.qualifiedName).isNone = true
    generalize l.lookup c.qualifiedName = found at hlookup ⊢
    generalize l'.lookup c'.qualifiedName = found' at hlookup ⊢
    cases hlookup with
    | none => exact Iff.rfl
    | some _ => exact Iff.rfl
  exact List.rel_map (fun c c' hc => hc.mapRefs fun m n => rel_redirect hN hl) hkept

end Pass

/-! ## All passes -/

section Passes

variable {N : String → String → Prop} (hN : Relator.BiUnique N) {root root' : Option String}
  (hroot : Option.Rel N root root')

include hN hroot

theorem renamed_mergeFrom (r : Registry) {r' : Registry}
    (h : List.Forall₂ (ClassDefinition.Renamed N) r.toList r'.toList) {t u : FieldType}
    (htu : t.Renamed N u) : (mergeFrom root t r).Renamed N (mergeFrom root' u r') := by
  induction r using pass_induction root generalizing r' t u with
  | done r hnil =>
      rw [mergeFrom_of_eq_nil hnil,
        mergeFrom_of_eq_nil ((duplicates_eq_nil_iff hN h hroot).mp hnil)]
      exact ⟨htu, h⟩
  | pass r hne ih =>
      have hpairs := rel_duplicates hN h hroot
      rw [mergeFrom_of_ne_nil hne,
        mergeFrom_of_ne_nil (mt (duplicates_eq_nil_iff hN h hroot).mpr hne)]
      exact ih (rel_rename hN h hpairs) (htu.mapRefs fun m n => rel_redirect hN hpairs)

theorem renamed_representativeFrom (r : Registry) {r' : Registry}
    (h : List.Forall₂ (ClassDefinition.Renamed N) r.toList r'.toList) {m n : String}
    (hmn : N m n) : N (representativeFrom root r m) (representativeFrom root' r' n) := by
  induction r using pass_induction root generalizing r' m n with
  | done r hnil =>
      rw [representativeFrom_of_eq_nil hnil,
        representativeFrom_of_eq_nil ((duplicates_eq_nil_iff hN h hroot).mp hnil)]
      exact hmn
  | pass r hne ih =>
      have hpairs := rel_duplicates hN h hroot
      rw [representativeFrom_of_ne_nil hne,
        representativeFrom_of_ne_nil (mt (duplicates_eq_nil_iff hN h hroot).mpr hne)]
      exact ih (rel_rename hN h hpairs) (rel_redirect hN hpairs hmn)

end Passes

section Merge

variable {N : String → String → Prop} {s s' : Schema}

/-- **Merging does not look at names**: schemas that are the same but for names are merged to
schemas that are. -/
theorem Renamed.merge (hN : Relator.BiUnique N) (h : s.Renamed N s') :
    s.merge.Renamed N s'.merge :=
  renamed_mergeFrom hN h.root.className? s.registry h.classes h.root

/-- **The same classes are merged** into the same ones. -/
theorem Renamed.representative (hN : Relator.BiUnique N) (h : s.Renamed N s') {m n : String}
    (hmn : N m n) : N (s.representative m) (s'.representative n) :=
  renamed_representativeFrom hN h.root.className? s.registry h.classes hmn

end Merge

end Specimen.Schema
