import Specimen.Proofs.Inference.ReferenceTree
import Specimen.Proofs.Schema.Unordered

set_option autoImplicit false

/-! # The order of entries affects only order

Permuting the attributes and the children of objects, at any depth, gives another document
(`Reordered`). `infer_reordered` says that without collisions of names it comes to the same schema
but for the order of classes and of fields, and that the fields of each class stand in the order of
the attributes and children of its object.

Names must not collide: of two classes with one name the later one is kept, and of two fields with
one name the later type. Without such replacements each subtree contributes its own classes, and
permuting subtrees permutes their contributions (`perm_of_listingOfChildren`). What an XML element
is does not change either, since it depends on whether all its children have one name.
-/

namespace Specimen.Inference

open Specimen.Document Specimen.Schema

/-! ## Reordered documents -/

mutual

/-- The same document but for the order of the attributes and of the children of objects, at any
depth. -/
inductive Reordered : Element → Element → Prop
  | scalar (s : Scalar) : Reordered (.scalar s) (.scalar s)
  /-- The children of any container, also of a list, are reordered inside. -/
  | inside {origin : Origin} {attributes : List (String × String)}
      {children children' : List (String × Element)}
      (hchildren : ReorderedInside children children') :
      Reordered (.container origin attributes children) (.container origin attributes children')
  /-- The children of an object are reordered inside and then permuted, and so are its
  attributes. -/
  | object {origin : Origin} {attributes attributes' : List (String × String)}
      {children children' children'' : List (String × Element)}
      (hshape : containerShape origin attributes children = .ok .object)
      (hattributes : attributes.Perm attributes') (hchildren : ReorderedInside children children')
      (hperm : children'.Perm children'') :
      Reordered (.container origin attributes children) (.container origin attributes' children'')

/-- Children with the same names, in the same order, each of them reordered. -/
inductive ReorderedInside : List (String × Element) → List (String × Element) → Prop
  | nil : ReorderedInside [] []
  | cons {name : String} {child child' : Element} {others others' : List (String × Element)}
      (hchild : Reordered child child') (hothers : ReorderedInside others others') :
      ReorderedInside ((name, child) :: others) ((name, child') :: others')

end

theorem ReorderedInside.names_eq {children children' : List (String × Element)}
    (h : ReorderedInside children children') :
    children.map Prod.fst = children'.map Prod.fst := by
  cases h with
  | nil => rfl
  | cons _ hothers => rw [List.map_cons, List.map_cons, hothers.names_eq]

/-! ## Shapes -/

theorem sameNames_iff (children : List (String × Element)) :
    sameNames children = true ↔
      ∀ m ∈ children.map Prod.fst, ∀ n ∈ children.map Prod.fst, m = n := by
  cases children with
  | nil => simp [sameNames]
  | cons child others =>
      rw [sameNames, List.all_eq_true]
      constructor
      · intro h
        have hfirst : ∀ n ∈ (child :: others).map Prod.fst, n = child.1 := by
          simpa using h
        intro m hm n hn
        rw [hfirst m hm, hfirst n hn]
      · intro h c hc
        have hmem := List.mem_map_of_mem (f := Prod.fst) (List.mem_cons_of_mem child hc)
        exact beq_iff_eq.mpr (h c.1 hmem child.1 List.mem_cons_self)

/-- The shape of a container does not depend on the order of its parts. -/
theorem containerShape_perm {attributes attributes' : List (String × String)}
    {children children' : List (String × Element)} (hattributes : attributes.Perm attributes')
    (hnames : (children.map Prod.fst).Perm (children'.map Prod.fst)) (origin : Origin) :
    containerShape origin attributes children
      = containerShape origin attributes' children' := by
  have hnone : attributes.isEmpty = attributes'.isEmpty := hattributes.isEmpty_eq
  cases origin with
  | jsonObject => rw [containerShape, containerShape, hnone, hattributes.length_eq]
  | jsonArray => rw [containerShape, containerShape, hnone, hattributes.length_eq]
  | xml =>
      have hempty : children.isEmpty = children'.isEmpty := by simpa using hnames.isEmpty_eq
      have hsame : sameNames children = sameNames children' := by
        rw [Bool.eq_iff_iff, sameNames_iff, sameNames_iff]
        simp only [hnames.mem_iff]
      rw [containerShape, containerShape, hnone, hempty, hsame]

/-! ## Permuted children -/

section Children

variable {typing : StringTyping} {package : String} {children children' : List (String × Element)}

/-- **Permuted children list permuted entries and permuted classes.** -/
theorem perm_of_listingOfChildren (h : children.Perm children') :
    ∀ {entries : List (String × FieldType)},
      (listingOfChildren typing package children).result = .ok entries →
      ∃ entries', (listingOfChildren typing package children').result = .ok entries' ∧
        entries.Perm entries' ∧
        (listingOfChildren typing package children).classes.Perm
          (listingOfChildren typing package children').classes := by
  induction h with
  | nil =>
      intro entries hresult
      exact ⟨entries, hresult, .refl _, .refl _⟩
  | cons child _ ih =>
      intro entries hresult
      obtain ⟨name, t, rest, hname, hchild, hothers, rfl, hclasses⟩ :=
        exists_of_listingOfChildren hresult
      obtain ⟨rest', hothers', hentries, hperm⟩ := ih hothers
      have hcons := listingOfChildren_cons hname hchild hothers'
      rw [hclasses, hcons]
      exact ⟨_, rfl, hentries.cons _, hperm.append_left _⟩
  | swap first second others =>
      intro entries hresult
      obtain ⟨name, t, rest, hname, hchild, hothers, rfl, hclasses⟩ :=
        exists_of_listingOfChildren hresult
      obtain ⟨name', t', rest', hname', hchild', hothers', rfl, hclasses'⟩ :=
        exists_of_listingOfChildren hothers
      -- the second child goes first, in front of the first one and the others
      have hinner := listingOfChildren_cons hname hchild hothers'
      have hcons := listingOfChildren_cons hname' hchild' (congrArg Listing.result hinner)
      rw [hclasses, hclasses', hcons, hinner]
      exact ⟨_, rfl, .swap _ _ _, List.perm_append_comm_assoc _ _ _⟩
  | trans _ _ ih ih' =>
      intro entries hresult
      obtain ⟨entries', hresult', hentries, hclasses⟩ := ih hresult
      obtain ⟨entries'', hresult'', hentries', hclasses'⟩ := ih' hresult'
      exact ⟨entries'', hresult'', hentries.trans hentries', hclasses.trans hclasses'⟩

/-- The objects that are sampled in children are those of one child after the other. -/
theorem sampledInChildren_eq_flatMap (children : List (String × Element)) :
    sampledInChildren children = children.flatMap fun child =>
      match capitalize child.1 with
      | .ok name => sampledObjects name child.2
      | .error _ => [] := by
  induction children with
  | nil => rfl
  | cons child others ih =>
      rw [sampledInChildren, List.flatMap_cons, ih]
      cases capitalize child.1 <;> rfl

theorem perm_sampledInChildren (h : children.Perm children') :
    (sampledInChildren children).Perm (sampledInChildren children') := by
  rw [sampledInChildren_eq_flatMap, sampledInChildren_eq_flatMap]
  exact h.flatMap_right _

end Children

/-! ## Reordered parts -/

section Object

variable {attributes attributes' : List (String × String)}
  {children children' : List (String × Element)} {entries entries' : List (String × FieldType)}

/-- **The class of an object with permuted parts has the same content** if no name is repeated. -/
theorem content_settledFields (hattributes : attributes.Perm attributes')
    (hentries : entries.Perm entries') (hnames : entries.map Prod.fst = children.map Prod.fst)
    (hnames' : entries'.map Prod.fst = children'.map Prod.fst)
    (hdistinct : (attributes.map Prod.fst ++ children.map Prod.fst).Nodup)
    (hdistinct' : (attributes'.map Prod.fst ++ children'.map Prod.fst).Nodup)
    (qualifiedName : String) :
    ClassDefinition.content ⟨qualifiedName, settledFields (attributeEntries attributes ++ entries)⟩
      = ClassDefinition.content
          ⟨qualifiedName, settledFields (attributeEntries attributes' ++ entries')⟩ := by
  refine ClassDefinition.content_eq_iff.mpr ⟨rfl, ?_⟩
  rw [toList_settledFields hnames hdistinct, toList_settledFields hnames' hdistinct']
  exact (hattributes.map _).append hentries

end Object

/-- A listing has a given result, and its classes have the contents of given ones. -/
structure Listing.Gives {α : Type} (l : Listing α) (a : α) (classes : List ClassDefinition) :
    Prop where
  result : l.result = .ok a
  classes : SameContents classes l.classes

theorem Listing.Gives.trans {α : Type} {l l' : Listing α} {a b : α} {classes : List ClassDefinition}
    (h : l.Gives a classes) (h' : l'.Gives b l.classes) : l'.Gives b classes :=
  ⟨h'.result, h.classes.trans h'.classes⟩

section Container

variable {typing : StringTyping} {package name : String} {origin : Origin}
  {attributes attributes' : List (String × String)} {children children' : List (String × Element)}

theorem forall_sampled_of_object (hshape : containerShape origin attributes children = .ok .object)
    {P : SampledObject → Prop} :
    (∀ o ∈ sampledObjects name (.container origin attributes children), P o) ↔
      (∀ o ∈ sampledInChildren children, P o) ∧ P ⟨name, attributes, children⟩ := by
  simp only [sampledObjects, hshape, List.forall_mem_append, List.forall_mem_singleton]

/-- **One object whose parts are permuted.** -/
theorem listing_permuted (hshape : containerShape origin attributes children = .ok .object)
    (hattributes : attributes.Perm attributes') (hchildren : children.Perm children') {t : FieldType}
    (hresult : (listing typing package name (.container origin attributes children)).result = .ok t)
    (hparts : ∀ o ∈ sampledObjects name (.container origin attributes children),
      o.HasDistinctParts) :
    (listing typing package name (.container origin attributes' children')).Gives t
        (listing typing package name (.container origin attributes children)).classes ∧
      ∀ o ∈ sampledObjects name (.container origin attributes' children'), o.HasDistinctParts := by
  have hnames : (children.map Prod.fst).Perm (children'.map Prod.fst) := hchildren.map _
  have hshape' : containerShape origin attributes' children' = .ok .object :=
    containerShape_perm hattributes hnames origin ▸ hshape
  obtain ⟨hinside, hown⟩ := (forall_sampled_of_object hshape).mp hparts
  have hown' : (attributes'.map Prod.fst ++ children'.map Prod.fst).Nodup :=
    (((hattributes.map _).append hnames).nodup_iff).mp hown
  rcases listing_container_cases hresult with
    ⟨hnull, _⟩ | ⟨hlist, _⟩ | ⟨entries, _, hentries, rfl, hclasses⟩
  · cases hshape.symm.trans hnull
  · cases hshape.symm.trans hlist
  · obtain ⟨entries', hentries', hpermuted, hclasses'⟩ := perm_of_listingOfChildren hchildren hentries
    have hcontent := content_settledFields hattributes hpermuted
      (names_of_listingOfChildren hentries) (names_of_listingOfChildren hentries') hown hown'
      (qualify package name)
    rw [hclasses, listing_of_object hshape' hentries', forall_sampled_of_object hshape']
    refine ⟨⟨rfl, SameContents.append (.of_perm hclasses') (.singleton hcontent)⟩, ?_, hown'⟩
    intro o ho
    exact hinside o ((perm_sampledInChildren hchildren).mem_iff.mpr ho)

end Container

mutual

/-- **Reordered parts have one type, and their classes have the same contents**, if no sampled
object repeats a name. Then none does afterwards. -/
theorem listing_reordered (typing : StringTyping) (package : String) :
    ∀ (name : String) (element : Element) (t : FieldType),
      (listing typing package name element).result = .ok t →
      (∀ o ∈ sampledObjects name element, o.HasDistinctParts) →
      ∀ element', Reordered element element' →
        (listing typing package name element').Gives t
            (listing typing package name element).classes ∧
          ∀ o ∈ sampledObjects name element', o.HasDistinctParts
  | _, .scalar _, _, hresult, hparts, _, h => by
      cases h
      exact ⟨⟨hresult, .of_perm (.refl _)⟩, hparts⟩
  | name, .container origin attributes children, t, hresult, hparts, _, h => by
      -- both ways of reordering a container reorder its children inside first
      have hinside : ∀ children', ReorderedInside children children' →
          (listing typing package name (.container origin attributes children')).Gives t
              (listing typing package name (.container origin attributes children)).classes ∧
            ∀ o ∈ sampledObjects name (.container origin attributes children'),
              o.HasDistinctParts := by
        intro children' hchildren
        have hsame := containerShape_perm (.refl attributes) (.of_eq hchildren.names_eq) origin
        rcases listing_container_cases hresult with
          ⟨hnull, rfl, hclasses⟩ | ⟨hlist, heq⟩ | ⟨entries, hobject, hentries, rfl, hclasses⟩
        · rw [hclasses, listing, sampledObjects, ← hsame, hnull]
          exact ⟨⟨rfl, .of_perm (.refl _)⟩, by simp⟩
        · rw [sampledObjects, hlist] at hparts
          rw [heq] at hresult ⊢
          rw [listing_of_list (hsame ▸ hlist), sampledObjects, ← hsame, hlist]
          exact listingOfFirst_reordered typing package origin name children t hresult hparts
            children' hchildren
        · have hobject' : containerShape origin attributes children' = .ok .object := hsame ▸ hobject
          obtain ⟨hobjects, hown⟩ := (forall_sampled_of_object hobject).mp hparts
          obtain ⟨hgives, hobjects'⟩ := listingOfChildren_reordered typing package children entries
            hentries hobjects children' hchildren
          rw [hclasses, listing_of_object hobject' hgives.result, forall_sampled_of_object hobject']
          refine ⟨⟨rfl, hgives.classes.append (.of_perm (.refl _))⟩, hobjects', ?_⟩
          rwa [SampledObject.HasDistinctParts, ← hchildren.names_eq]
      cases h with
      | inside hchildren => exact hinside _ hchildren
      | @object _ _ attributes' _ children' children'' hshape hattributes hchildren hperm =>
          have hsame := containerShape_perm (.refl attributes) (.of_eq hchildren.names_eq) origin
          obtain ⟨hgives, hdistinct⟩ := hinside children' hchildren
          obtain ⟨hgives', hdistinct'⟩ := listing_permuted (hsame ▸ hshape) hattributes hperm
            hgives.result hdistinct
          exact ⟨hgives.trans hgives', hdistinct'⟩

theorem listingOfFirst_reordered (typing : StringTyping) (package : String) (origin : Origin)
    (name : String) :
    ∀ (children : List (String × Element)) (t : FieldType),
      (listingOfFirst typing package origin name children).result = .ok t →
      (∀ o ∈ sampledInFirst origin name children, o.HasDistinctParts) →
      ∀ children', ReorderedInside children children' →
        (listingOfFirst typing package origin name children').Gives t
            (listingOfFirst typing package origin name children).classes ∧
          ∀ o ∈ sampledInFirst origin name children', o.HasDistinctParts
  | [], _, hresult, hparts, _, h => by
      cases h
      exact ⟨⟨hresult, .of_perm (.refl _)⟩, hparts⟩
  | (tag, first) :: _, t, hresult, hparts, _, h => by
      cases h with
      | cons hfirst _ =>
          obtain ⟨u, hu, rfl⟩ := exists_of_listingOfFirst hresult
          rw [sampledInFirst] at hparts
          obtain ⟨hgives, hdistinct⟩ := listing_reordered typing package _ first u hu hparts _ hfirst
          rw [listingOfFirst, listingOfFirst, sampledInFirst]
          refine ⟨⟨?_, hgives.classes⟩, hdistinct⟩
          rw [hgives.result]
          rfl

theorem listingOfChildren_reordered (typing : StringTyping) (package : String) :
    ∀ (children : List (String × Element)) (entries : List (String × FieldType)),
      (listingOfChildren typing package children).result = .ok entries →
      (∀ o ∈ sampledInChildren children, o.HasDistinctParts) →
      ∀ children', ReorderedInside children children' →
        (listingOfChildren typing package children').Gives entries
            (listingOfChildren typing package children).classes ∧
          ∀ o ∈ sampledInChildren children', o.HasDistinctParts
  | [], _, hresult, hparts, _, h => by
      cases h
      exact ⟨⟨hresult, .of_perm (.refl _)⟩, hparts⟩
  | (field, child) :: others, entries, hresult, hparts, _, h => by
      cases h with
      | cons hchild hothers =>
          obtain ⟨name, u, rest, hname, hu, hrest, rfl, hclasses⟩ :=
            exists_of_listingOfChildren hresult
          rw [sampledInChildren, hname] at hparts
          obtain ⟨hfirst, hfirstParts⟩ := listing_reordered typing package name child u hu
            (fun o ho => hparts o (List.mem_append_left _ ho)) _ hchild
          obtain ⟨hrest', hrestParts⟩ := listingOfChildren_reordered typing package others rest hrest
            (fun o ho => hparts o (List.mem_append_right _ ho)) _ hothers
          rw [hclasses, listingOfChildren_cons hname hfirst.result hrest'.result, sampledInChildren,
            hname]
          refine ⟨⟨rfl, hfirst.classes.append hrest'.classes⟩, fun o ho => ?_⟩
          rcases List.mem_append.mp ho with ho | ho
          · exact hfirstParts o ho
          · exact hrestParts o ho

end

/-! ## One document -/

/-- The fields of the class of an object without repeated names stand in the order of the object's
attributes and children. -/
theorem SampledObject.keys_of_class? {typing : StringTyping} {package : String} {o : SampledObject}
    {c : ClassDefinition} (h : o.class? typing package = .ok c) (hparts : o.HasDistinctParts) :
    c.fields.keys = o.attributes.map Prod.fst ++ o.children.map Prod.fst := by
  obtain ⟨entries, hentries, rfl⟩ := exists_of_map_eq_ok h
  have hnames := names_of_listingOfChildren hentries
  rw [Keyed.keys, toList_settledFields hnames hparts, List.map_append, names_attributeEntries,
    hnames]

/-- **The order of entries affects only order.** If identical classes stay apart, sampled objects
have pairwise distinct qualified names and none of them repeats a name among its attributes and
children, then a document that has a schema has one in any order of the attributes and children of
its objects: the root has the same type, the registry is the same up to the order of classes and
fields, and it has the classes of the sampled objects in their order, each with its fields in the
order of the object's attributes and children. -/
theorem infer_reordered {typing : StringTyping} {rootName package name : String}
    {element element' : Element} {s : Schema} (hroot : splitRoot rootName = .ok (package, name))
    (hinfer : infer ⟨typing, false⟩ rootName element = .ok s)
    (hnames : ((sampledObjects name element).map fun o => qualify package o.name).Nodup)
    (hparts : ∀ o ∈ sampledObjects name element, o.HasDistinctParts)
    (h : Reordered element element') :
    ∃ s', infer ⟨typing, false⟩ rootName element' = .ok s' ∧ s'.root = s.root ∧
      s.registry.sameUpToOrder s'.registry = true ∧
      s'.registry.toList.map (fun c => (c.qualifiedName, c.fields.keys))
        = (sampledObjects name element').map fun o =>
            (qualify package o.name, o.attributes.map Prod.fst ++ o.children.map Prod.fst) := by
  rw [infer_unmerged] at hinfer ⊢
  obtain ⟨hresult, _⟩ := listing_of_run hroot hinfer
  obtain ⟨hgives, hparts'⟩ :=
    listing_reordered typing package name element s.root hresult hparts element' h
  obtain ⟨s', hrun', hsame⟩ : ∃ s', run ⟨typing, false⟩ rootName element' = .ok s' ∧
      s'.root = s.root := by
    rw [run_eq_listing hroot, hgives.result]
    exact ⟨_, rfl, rfl⟩
  -- names are distinct on both sides, so all listed classes are registered as they are
  have hlisted : (listing typing package name element).names.Nodup :=
    names_eq_sampled hresult ▸ hnames
  have hlisted' : (listing typing package name element').names.Nodup :=
    hgives.classes.names_perm.nodup_iff.mp hlisted
  have hclasses := toList_registry_of_run hroot hinfer hlisted
  have hclasses' := toList_registry_of_run hroot hrun' hlisted'
  refine ⟨s', hrun', hsame, Registry.sameUpToOrder_of_sameContents ?_, ?_⟩
  · rw [hclasses, hclasses']
    exact hgives.classes
  · rw [hclasses']
    refine map_classes_eq_sampled hgives.result fun o ho c hc => ?_
    rw [SampledObject.qualifiedName_of_class? hc, SampledObject.keys_of_class? hc (hparts' o ho)]

/-- An object with attributes around an object and a list of one object. -/
def household : Element :=
  .container .xml [("city", "Rome"), ("street", "Main")]
    [("owner", .container .xml [("id", "1"), ("age", "40")] []),
      ("pets", .container .xml [] [("pet", .container .xml []
        [("name", .scalar (.token "Rex")), ("kind", .scalar (.token "dog"))])])]

/-- The same with everything permuted that may be. -/
def reorderedHousehold : Element :=
  .container .xml [("street", "Main"), ("city", "Rome")]
    [("pets", .container .xml [] [("pet", .container .xml []
        [("kind", .scalar (.token "dog")), ("name", .scalar (.token "Rex"))])]),
      ("owner", .container .xml [("age", "40"), ("id", "1")] [])]

theorem reordered_household : Reordered household reorderedHousehold := by
  have howner : Reordered (.container .xml [("id", "1"), ("age", "40")] [])
      (.container .xml [("age", "40"), ("id", "1")] []) :=
    .object rfl (.swap _ _ _) .nil .nil
  have hpet : Reordered (.container .xml []
        [("name", .scalar (.token "Rex")), ("kind", .scalar (.token "dog"))])
      (.container .xml [] [("kind", .scalar (.token "dog")), ("name", .scalar (.token "Rex"))]) :=
    .object rfl .nil (.cons (.scalar _) (.cons (.scalar _) .nil)) (.swap _ _ _)
  exact .object rfl (.swap _ _ _) (.cons howner (.cons (.inside (.cons hpet .nil)) .nil))
    (.swap _ _ _)

theorem infer_reordered_household :
    ∃ s s', infer ⟨.literal, false⟩ "p.R" household = .ok s ∧
      infer ⟨.literal, false⟩ "p.R" reorderedHousehold = .ok s' ∧
      s.registry.keys = ["p.Owner", "p.pet", "p.R"] ∧ s.registry.sameUpToOrder s'.registry = true ∧
      s'.registry.toList.map (fun c => (c.qualifiedName, c.fields.keys))
        = [("p.pet", ["kind", "name"]), ("p.Owner", ["age", "id"]),
            ("p.R", ["street", "city", "pets", "owner"])] := by
  have hroot : splitRoot "p.R" = .ok ("p", "R") := rfl
  have hnames : ((sampledObjects "R" household).map fun o => qualify "p" o.name).Nodup := by decide
  have hparts : ∀ o ∈ sampledObjects "R" household, o.HasDistinctParts := by
    unfold SampledObject.HasDistinctParts
    decide
  obtain ⟨s, hinfer, hkeys⟩ : ∃ s, infer ⟨.literal, false⟩ "p.R" household = .ok s ∧
      s.registry.keys = ["p.Owner", "p.pet", "p.R"] := ⟨_, rfl, rfl⟩
  obtain ⟨s', hinfer', _, hsame, hfields⟩ :=
    infer_reordered hroot hinfer hnames hparts reordered_household
  exact ⟨s, s', hinfer, hinfer', hkeys, hsame, hfields⟩

end Specimen.Inference
