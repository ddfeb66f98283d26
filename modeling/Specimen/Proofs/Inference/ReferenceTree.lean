import Mathlib.Data.List.Nodup
import Specimen.Proofs.Inference.Reachability

set_option autoImplicit false

/-! # Without collisions a schema is a tree

Names are what ties a schema together, so what a document comes to depends on whether names
collide. If no two sampled objects are proposed one name, and no object has two parts with one
name, then nothing is ever replaced, and the schema mirrors the document (`run_isTree`): there is
one class for each sampled object, inner ones first, and the references between them form a tree
with the type of the root on top (`Schema.IsTree`).

What carries the count is `names_perm_references`: in a listing, each class is referred to once,
either by the type that is listed or by a field of a listed class. An object takes the references
of its children over into its own class and gives one new reference to that class. Cycles are
excluded by the order of a listing, in which each class refers to earlier ones only.
-/

namespace Specimen.Schema

/-! ## References -/

/-- The types of a class's fields, in order. -/
def ClassDefinition.fieldTypes (c : ClassDefinition) : List FieldType :=
  c.fields.toList.map Prod.snd

/-- The types of the fields of all classes, in order. -/
def Registry.fieldTypes (r : Registry) : List FieldType :=
  r.toList.flatMap ClassDefinition.fieldTypes

/-- The references between classes form a tree with the type of the root on top. -/
structure IsTree (s : Schema) : Prop where
  /-- Each class is referred to in one place, by the type of the root or by that of a field. -/
  once : ∀ n ∈ s.registry.keys,
    (s.root :: s.registry.fieldTypes).countP (fun t => t.reference? == some n) = 1
  /-- No field refers to the class of the root. -/
  top : ∀ n, s.root = .objectRef n → ∀ t ∈ s.registry.fieldTypes, t.reference? ≠ some n
  /-- No field of a class leads back to the class. -/
  acyclic : ∀ c ∈ s.registry.toList, ∀ t ∈ c.fieldTypes, ¬ s.registry.Reaches t c.qualifiedName
  /-- The type of the root leads to every class. -/
  reached : s.IsReached

/-- The classes that types refer to, one for each type that refers to one. -/
def references (types : List FieldType) : List String := types.filterMap FieldType.reference?

theorem references_cons_of_none {t : FieldType} (h : t.reference? = none) (types : List FieldType) :
    references (t :: types) = references types := List.filterMap_cons_none h

theorem references_append (types types' : List FieldType) :
    references (types ++ types') = references types ++ references types' :=
  List.filterMap_append

/-- **No class leads back to itself** if classes refer to earlier ones only. -/
theorem Registry.not_reaches_self {r : Registry} (h : Grounded [] r.toList) :
    ∀ c ∈ r.toList, ∀ t ∈ c.fieldTypes, ¬ r.Reaches t c.qualifiedName := by
  intro c hc t ht hreaches
  obtain ⟨entry, hentry, rfl⟩ := List.mem_map.mp ht
  obtain ⟨before, behind, hsplit⟩ := List.append_of_mem hc
  have hnodup := r.nodup
  rw [hsplit] at h
  obtain ⟨hbefore, hown, _⟩ := h.of_append
  rw [List.append_nil] at hown
  -- from the fields of the class only earlier classes are reached, which have other names
  have hearlier : c.qualifiedName ∈ before.map ClassDefinition.qualifiedName := by
    refine hreaches.mem_of_refersWithin (hown entry hentry) fun d hd hname => ?_
    obtain ⟨e, he, hed⟩ := List.mem_map.mp hname
    have hmem : e ∈ r.toList := by
      rw [hsplit]
      exact List.mem_append_left _ he
    obtain rfl := eq_of_qualifiedName_eq hmem hd hed
    simpa using hbefore.refersWithin he
  rw [hsplit, List.map_append, List.map_cons, List.nodup_append] at hnodup
  exact hnodup.2.2 _ hearlier _ List.mem_cons_self rfl

end Specimen.Schema

namespace Specimen.Inference

open Specimen.Document Specimen.Schema

/-! ## Each listed class is referred to once -/

/-- No two parts of an object, attributes or children, have one name. -/
def SampledObject.HasDistinctParts (o : SampledObject) : Prop :=
  (o.attributes.map Prod.fst ++ o.children.map Prod.fst).Nodup

/-- The types of attributes are no references. -/
theorem references_attributeEntries (attributes : List (String × String)) :
    references ((attributeEntries attributes).map Prod.snd) = [] := by
  rw [references, List.filterMap_eq_nil_iff]
  intro t ht
  obtain ⟨entry, hentry, rfl⟩ := List.mem_map.mp ht
  obtain ⟨⟨_, value⟩, _, rfl⟩ := List.mem_map.mp hentry
  exact reference?_attributeType value

/-- The fields of an object without repeated names are its entries as they are. -/
theorem toList_settledFields {attributes : List (String × String)}
    {children : List (String × Element)} {entries : List (String × FieldType)}
    (hnames : entries.map Prod.fst = children.map Prod.fst)
    (hdistinct : (attributes.map Prod.fst ++ children.map Prod.fst).Nodup) :
    (settledFields (attributeEntries attributes ++ entries)).toList
      = attributeEntries attributes ++ entries := by
  refine Keyed.settled_eq_self ?_
  rwa [List.map_append, names_attributeEntries, hnames]

/-- The class of an object without repeated names takes over the references of its children. -/
theorem references_settledFields {attributes : List (String × String)}
    {children : List (String × Element)} {entries : List (String × FieldType)}
    (hnames : entries.map Prod.fst = children.map Prod.fst)
    (hdistinct : (attributes.map Prod.fst ++ children.map Prod.fst).Nodup)
    (qualifiedName : String) :
    references (ClassDefinition.fieldTypes
        ⟨qualifiedName, settledFields (attributeEntries attributes ++ entries)⟩)
      = references (entries.map Prod.snd) := by
  rw [ClassDefinition.fieldTypes, toList_settledFields hnames hdistinct, List.map_append,
    references_append, references_attributeEntries, List.nil_append]

/-- The types of the fields of all classes of a listing. -/
def Listing.fieldTypes {α : Type} (l : Listing α) : List FieldType :=
  l.classes.flatMap ClassDefinition.fieldTypes

mutual

/-- **Each listed class is referred to once**, by the listed type or by a field of a listed class,
if no sampled object repeats a name. -/
theorem names_perm_references (typing : StringTyping) (package : String) :
    ∀ (name : String) (element : Element) (t : FieldType),
      (listing typing package name element).result = .ok t →
      (∀ o ∈ sampledObjects name element, o.HasDistinctParts) →
      (listing typing package name element).names.Perm
        (references (t :: (listing typing package name element).fieldTypes))
  | name, .scalar s, t, h, _ => by
      cases h
      rw [references_cons_of_none (reference?_leafType typing s)]
      exact List.Perm.refl []
  | name, .container origin attributes children, t, h, hparts => by
      rw [sampledObjects] at hparts
      rcases listing_container_cases h with
        ⟨_, rfl, hclasses⟩ | ⟨hshape, heq⟩ | ⟨entries, hshape, hresult, rfl, hclasses⟩
      · rw [Listing.names, Listing.fieldTypes, hclasses]
        exact List.Perm.refl []
      · rw [hshape] at hparts
        rw [heq] at h ⊢
        exact namesOfFirst_perm_references typing package origin name children t h hparts
      · rw [hshape] at hparts
        have ih := namesOfChildren_perm_references typing package children entries hresult
          (fun o ho => hparts o (List.mem_append_left _ ho))
        have hdistinct := hparts _ (List.mem_append_right _ (List.mem_singleton_self _))
        have hown := references_settledFields (names_of_listingOfChildren hresult) hdistinct
          (qualify package name)
        -- the children's classes keep their references, and the own class is the one that is new
        rw [Listing.names, Listing.fieldTypes, hclasses, List.map_append, List.flatMap_append,
          List.flatMap_singleton]
        show List.Perm _ (qualify package name :: references _)
        rw [references_append, hown, ← references_append]
        refine List.perm_append_comm.trans (.cons _ (ih.trans ?_))
        rw [references_append, references_append]
        exact List.perm_append_comm

theorem namesOfFirst_perm_references (typing : StringTyping) (package : String) (origin : Origin)
    (name : String) :
    ∀ (children : List (String × Element)) (t : FieldType),
      (listingOfFirst typing package origin name children).result = .ok t →
      (∀ o ∈ sampledInFirst origin name children, o.HasDistinctParts) →
      (listingOfFirst typing package origin name children).names.Perm
        (references (t :: (listingOfFirst typing package origin name children).fieldTypes))
  | [], t, h, _ => by
      cases h
      exact List.Perm.refl []
  | (tag, first) :: _, t, h, hparts => by
      obtain ⟨u, hu, rfl⟩ := exists_of_listingOfFirst h
      have ih := names_perm_references typing package _ first u hu hparts
      -- a list refers to what its element refers to
      have hlist : ∀ types, references (.listOf u.boxed :: types) = references (u :: types) := by
        intro types
        simp only [references, List.filterMap_cons, FieldType.reference?,
          FieldType.reference?_boxed]
      rw [hlist]
      exact ih

theorem namesOfChildren_perm_references (typing : StringTyping) (package : String) :
    ∀ (children : List (String × Element)) (entries : List (String × FieldType)),
      (listingOfChildren typing package children).result = .ok entries →
      (∀ o ∈ sampledInChildren children, o.HasDistinctParts) →
      (listingOfChildren typing package children).names.Perm
        (references
          (entries.map Prod.snd ++ (listingOfChildren typing package children).fieldTypes))
  | [], entries, h, _ => by
      cases h
      exact List.Perm.refl []
  | (field, child) :: others, entries, h, hparts => by
      obtain ⟨name, u, rest, hname, hchild, hothers, rfl, hclasses⟩ := exists_of_listingOfChildren h
      rw [sampledInChildren, hname] at hparts
      have ihChild := names_perm_references typing package name child u hchild
        (fun o ho => hparts o (List.mem_append_left _ ho))
      have ihOthers := namesOfChildren_perm_references typing package others rest hothers
        (fun o ho => hparts o (List.mem_append_right _ ho))
      rw [Listing.names, Listing.fieldTypes, hclasses, List.map_append, List.flatMap_append]
      refine (ihChild.append ihOthers).trans ?_
      rw [← references_append]
      refine List.Perm.filterMap _ ?_
      exact (List.perm_append_comm_assoc _ _ _).cons u

end

/-! ## One document -/

section Run

variable {options : Options} {rootName package name : String} {element : Element} {s : Schema}

/-- If the names of the listed classes are distinct, all listed classes are registered as they
are. -/
theorem toList_registry_of_run (hroot : splitRoot rootName = .ok (package, name))
    (hrun : run options rootName element = .ok s)
    (hnames : (listing options.stringTyping package name element).names.Nodup) :
    s.registry.toList = (listing options.stringTyping package name element).classes := by
  rw [(listing_of_run hroot hrun).2]
  exact (Keyed.toList_ofList _).trans (Keyed.settled_eq_self hnames)

/-- What is read off the listed classes is read off the sampled objects. -/
theorem map_classes_eq_sampled {typing : StringTyping} {t : FieldType}
    (h : (listing typing package name element).result = .ok t) {α : Type}
    {f : ClassDefinition → α} {g : SampledObject → α}
    (hfg : ∀ o ∈ sampledObjects name element, ∀ c, o.class? typing package = .ok c → f c = g o) :
    (listing typing package name element).classes.map f = (sampledObjects name element).map g := by
  have hclasses := classes_eq_sampled typing package name element t h
  have hread : ∀ o ∈ sampledObjects name element,
      (o.class? typing package).map f = .ok (g o) := by
    intro o ho
    have hmem := List.mem_map_of_mem (f := SampledObject.class? typing package) ho
    rw [← hclasses] at hmem
    obtain ⟨c, _, hc⟩ := List.mem_map.mp hmem
    rw [← hc, ← hfg o ho c hc.symm]
    rfl
  have hinjective : Function.Injective (Except.ok : α → Except Failure α) :=
    fun _ _ => Except.ok.inj
  refine List.map_injective_iff.mpr hinjective ?_
  have hmap := congrArg (List.map (Except.map f)) hclasses
  rw [List.map_map, List.map_map] at hmap
  rw [List.map_map, List.map_map]
  exact hmap.trans (List.map_congr_left hread)

/-- The listed classes are called after the sampled objects. -/
theorem names_eq_sampled {typing : StringTyping} {t : FieldType}
    (h : (listing typing package name element).result = .ok t) :
    (listing typing package name element).names
      = (sampledObjects name element).map fun o => qualify package o.name :=
  map_classes_eq_sampled h fun _ _ _ => SampledObject.qualifiedName_of_class?

/-- **Without collisions the schema is a tree that mirrors the document.** If sampled objects have
pairwise distinct qualified names and none of them repeats a name among its attributes and
children, the registry consists of the classes of the sampled objects, one for each and in their
order, inner ones first; the class of the root is referred to by no field, every other class by
one field or the type of the root; and references lead from the root to all classes and never in
a circle. -/
theorem run_isTree (hroot : splitRoot rootName = .ok (package, name))
    (hrun : run options rootName element = .ok s)
    (hnames : ((sampledObjects name element).map fun o => qualify package o.name).Nodup)
    (hparts : ∀ o ∈ sampledObjects name element, o.HasDistinctParts) :
    s.registry.toList.map Except.ok
        = (sampledObjects name element).map (SampledObject.class? options.stringTyping package) ∧
      s.IsTree := by
  obtain ⟨hresult, _⟩ := listing_of_run hroot hrun
  have hlisted := names_eq_sampled hresult
  have hclasses := toList_registry_of_run hroot hrun (hlisted ▸ hnames)
  obtain ⟨hclosed, hwithin⟩ := resolved_of_run hroot hrun
  -- nothing collides, so nothing disagrees
  have hagree : ClassesAgree options.stringTyping package (sampledObjects name element) := by
    intro o ho o' ho' hname
    rw [List.inj_on_of_nodup_map hnames ho ho' (congrArg _ hname)]
  have hfields : ∀ o ∈ sampledObjects name element, o.FieldsAgree options.stringTyping package := by
    intro o ho entries hentries p hp q hq hpq
    have hkeys := List.Nodup.of_append_right (hparts o ho)
    rw [← names_of_listingOfChildren hentries] at hkeys
    rw [List.inj_on_of_nodup_map hkeys hp hq hpq]
  have honce : ∀ n ∈ s.registry.keys,
      (s.root :: s.registry.fieldTypes).countP (fun t => t.reference? == some n) = 1 := by
    intro n hn
    have hperm := names_perm_references options.stringTyping package name element s.root hresult
      hparts
    have hn' := (mem_keys_iff_of_run hroot hrun n).mp hn
    rw [Registry.fieldTypes, hclasses, ← List.count_filterMap]
    exact (hperm.count_eq n).symm.trans (List.count_eq_one_of_mem (hlisted ▸ hnames) hn')
  refine ⟨?_, honce, fun n hn t ht hreference => ?_, ?_, ?_⟩
  · rw [hclasses]
    exact classes_eq_sampled options.stringTyping package name element s.root hresult
  · -- the type of the root is the one place that refers to its class
    have hone := honce n (hwithin n (by rw [hn]; rfl))
    rw [hn, List.countP_cons_of_pos (by simp [FieldType.reference?])] at hone
    have hzero := List.countP_eq_zero.mp (Nat.succ.inj hone) t ht
    simp [hreference] at hzero
  · refine Registry.not_reaches_self ?_
    rw [hclasses]
    exact (listing_grounded options.stringTyping package name element).classes
  · exact Schema.isReached_of_closed hclosed hwithin (reaches_of_run hroot hagree hfields hrun)

end Run

/-- An object with an attribute around an object and a list of a list of one object. -/
def nestedParts : Element :=
  .container .xml [("k", "x")] [("owner", .container .xml [("id", "1")] []),
    ("pets", .container .xml [] [("row", .container .xml []
      [("pet", .container .xml [("id", "2")] [("name", .scalar (.token "Rex"))])])])]

theorem run_isTree_nestedParts :
    ∃ s, run .standard "p.R" nestedParts = .ok s ∧
      s.registry.keys = ["p.Owner", "p.pet", "p.R"] ∧ s.IsTree := by
  have hroot : splitRoot "p.R" = .ok ("p", "R") := rfl
  have hobjects : (sampledObjects "R" nestedParts).map
        (fun o => (o.name, o.attributes.map Prod.fst ++ o.children.map Prod.fst))
      = [("Owner", ["id"]), ("pet", ["id", "name"]), ("R", ["k", "owner", "pets"])] := rfl
  have hnames : ((sampledObjects "R" nestedParts).map fun o => qualify "p" o.name).Nodup := by
    have hmap := congrArg (List.map fun p => qualify "p" p.1) hobjects
    rw [List.map_map] at hmap
    refine hmap ▸ ?_
    decide
  have hparts : ∀ o ∈ sampledObjects "R" nestedParts, o.HasDistinctParts := by
    intro o ho
    have hmem := List.mem_map_of_mem
      (f := fun o => (o.name, o.attributes.map Prod.fst ++ o.children.map Prod.fst)) ho
    rw [hobjects] at hmem
    have hnodup : ∀ p ∈ [("Owner", ["id"]), ("pet", ["id", "name"]), ("R", ["k", "owner", "pets"])],
        p.2.Nodup := by decide
    exact hnodup _ hmem
  obtain ⟨s, hrun, hkeys⟩ : ∃ s, run .standard "p.R" nestedParts = .ok s ∧
      s.registry.keys = ["p.Owner", "p.pet", "p.R"] := ⟨_, rfl, rfl⟩
  exact ⟨s, hrun, hkeys, (run_isTree hroot hrun hnames hparts).2⟩

end Specimen.Inference
