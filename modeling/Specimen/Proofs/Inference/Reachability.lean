import Specimen.Proofs.Inference.Closure
import Specimen.Proofs.Inference.Naming

set_option autoImplicit false

/-! # Which classes the root leads to

A type leads to the class that it refers to and from there to whatever the types of the class's
fields lead to (`Registry.Reaches`). Nothing else is ever reached than registered classes, but the
converse can fail: the classes inside of an object stay registered when a later field of the same
name replaces the type that led to them, or when a later class of the same name replaces the class
that did (`infer_replacedField`).

`infer_reaches` says that this is the only way. If no replacement changes anything, a schema
consists of the type of the root and exactly the classes that it leads to, whether identical
classes are merged or not: merging redirects each path to a class to a path to its representative
(`Registry.Represents.reaches`).
-/

namespace Specimen.Schema

/-- A type leads to a class, by a reference and the fields of registered classes. -/
inductive Registry.Reaches (r : Registry) : FieldType → String → Prop
  /-- The type refers to the class. -/
  | reference {t : FieldType} {n : String} (h : t.reference? = some n) : r.Reaches t n
  /-- The type refers to a registered class with a field whose type leads to the class. -/
  | field {t : FieldType} {m n : String} {c : ClassDefinition} {entry : String × FieldType}
      (h : t.reference? = some m) (hfind : r.find? m = some c) (hentry : entry ∈ c.fields.toList)
      (hreaches : r.Reaches entry.2 n) : r.Reaches t n

namespace Registry

variable {r r' : Registry} {f : String → String}

/-- Where one type refers, another one leads that refers there too. -/
theorem Reaches.congr {t u : FieldType} {n : String} (h : r.Reaches t n)
    (hreference : u.reference? = t.reference?) : r.Reaches u n := by
  cases h with
  | reference h => exact .reference (hreference.trans h)
  | field h hfind hentry hreaches => exact .field (hreference.trans h) hfind hentry hreaches

/-- From classes that refer to one another only, no others are reached. -/
theorem Reaches.mem_of_refersWithin {names : List String} {t : FieldType} {n : String}
    (h : r.Reaches t n) (ht : t.RefersWithin names)
    (hnames : ∀ c ∈ r.toList, c.qualifiedName ∈ names → c.RefersWithin names) : n ∈ names := by
  induction h with
  | reference h => exact ht _ h
  | field h hfind hentry _ ih =>
      obtain ⟨hc, rfl⟩ := Keyed.find?_eq_some_iff.mp hfind
      exact ih (hnames _ hc (ht _ h) _ hentry)

/-- Without open references only registered classes are reached. -/
theorem Closed.mem_keys_of_reaches (hr : r.Closed) {t : FieldType} {n : String}
    (h : r.Reaches t n) (ht : t.RefersWithin r.keys) : n ∈ r.keys :=
  h.mem_of_refersWithin ht fun c hc _ => hr c hc

/-! ## Merging -/

/-- **Paths are redirected**: where a type leads before merging, the redirected type leads to the
representative afterwards. -/
theorem Represents.reaches (h : r.Represents r' f) {t : FieldType} {n : String}
    (hreaches : r.Reaches t n) : r'.Reaches (t.mapRefs f) (f n) := by
  induction hreaches with
  | reference ht => exact .reference (by rw [FieldType.reference?_mapRefs, ht, Option.map_some])
  | @field t m n c entry ht hfind hentry _ ih =>
      obtain ⟨hc, rfl⟩ := Keyed.find?_eq_some_iff.mp hfind
      -- the class on the path is represented by `d`, which has the same field up to redirection
      obtain ⟨d, hd, hcd, hfix, hsig⟩ := h.kept c hc
      have hfound : r'.find? (f c.qualifiedName) = some (d.mapRefs f) :=
        Keyed.find?_eq_some_iff.mpr ⟨h.mem_iff.mpr ⟨d, hd, hfix, rfl⟩, hcd.symm⟩
      have hfield : (entry.1, entry.2.mapRefs f) ∈ (d.mapRefs f).fields.toList := by
        show _ ∈ redirectSignature f d.signature
        rw [hsig]
        exact List.mem_map.mpr ⟨entry, hentry, rfl⟩
      exact .field (by rw [FieldType.reference?_mapRefs, ht, Option.map_some]) hfound hfield ih

theorem Represents.refersWithin (h : r.Represents r' f) {t : FieldType}
    (ht : t.RefersWithin r.keys) : (t.mapRefs f).RefersWithin r'.keys := by
  intro n hn
  rw [FieldType.reference?_mapRefs] at hn
  obtain ⟨m, hm, rfl⟩ := Option.map_eq_some_iff.mp hn
  exact (h.mem_keys_iff m).mpr (ht m hm)

/-- Merging opens no reference. -/
theorem Represents.closed (h : r.Represents r' f) (hr : r.Closed) : r'.Closed := by
  intro c' hc' entry hentry
  obtain ⟨c, hc, _, rfl⟩ := h.mem_iff.mp hc'
  obtain ⟨p, hp, rfl⟩ := List.mem_map.mp hentry
  exact h.refersWithin (hr c hc p hp)

end Registry

end Specimen.Schema

namespace Specimen

open Specimen.Schema

/-- A schema consists of the type of the root and exactly the classes that it leads to. -/
def Schema.IsReached (s : Schema) : Prop := ∀ n, s.registry.Reaches s.root n ↔ n ∈ s.registry.keys

namespace Schema

theorem isReached_of_closed {s : Schema} (hclosed : s.registry.Closed)
    (hroot : s.root.RefersWithin s.registry.keys)
    (hreaches : ∀ n ∈ s.registry.keys, s.registry.Reaches s.root n) : s.IsReached :=
  fun n => ⟨fun h => hclosed.mem_keys_of_reaches h hroot, hreaches n⟩

/-- **Merging leaves no class behind** that the root does not lead to. -/
theorem isReached_merge {s : Schema} (hclosed : s.registry.Closed)
    (hroot : s.root.RefersWithin s.registry.keys)
    (hreaches : ∀ n ∈ s.registry.keys, s.registry.Reaches s.root n) : s.merge.IsReached := by
  have h := represents_merge s
  refine isReached_of_closed (h.closed hclosed) ?_ (fun n hn => ?_)
  · rw [root_merge]
    exact h.refersWithin hroot
  · -- a class that is left is its own representative
    obtain ⟨c', hc', rfl⟩ := List.mem_map.mp hn
    obtain ⟨c, hc, hfix, rfl⟩ := h.mem_iff.mp hc'
    have hpath := h.reaches (hreaches c.qualifiedName (Keyed.key_mem_keys hc))
    rw [hfix] at hpath
    rw [root_merge]
    exact hpath

end Schema

end Specimen

namespace Specimen.Inference

open Specimen.Document Specimen.Schema

/-! ## The classes of a document -/

/-- If children with one name have one type, the type of each child is that of a field. -/
theorem exists_field_of_mem_entries {attributes : List (String × String)}
    {entries : List (String × FieldType)}
    (h : ∀ p ∈ entries, ∀ q ∈ entries, p.1 = q.1 → p.2 = q.2) {p : String × FieldType}
    (hp : p ∈ entries) :
    ∃ q ∈ (settledFields (attributeEntries attributes ++ entries)).toList, q.2 = p.2 := by
  obtain ⟨q, hlast, hname⟩ := Keyed.lastWith_isSome (List.mem_map_of_mem (f := Prod.fst) hp)
  have hq := (Keyed.of_lastWith_eq_some hlast).1
  refine ⟨q, Keyed.mem_settled.mpr ?_, h q hq p hp hname⟩
  rw [hname, Keyed.lastWith_append, hlast, Option.some_or]

mutual

/-- The type of a part of a document leads to each class of its listing, in a registry in which
all of them are found. -/
theorem listing_reaches (typing : StringTyping) (package : String) (r : Registry) :
    ∀ (name : String) (element : Element) (t : FieldType),
      (listing typing package name element).result = .ok t →
      (∀ c ∈ (listing typing package name element).classes, r.find? c.qualifiedName = some c) →
      (∀ o ∈ sampledObjects name element, o.FieldsAgree typing package) →
      ∀ c ∈ (listing typing package name element).classes, r.Reaches t c.qualifiedName
  | _, .scalar _, _, _, _, _ => fun c hc => by cases hc
  | name, .container origin attributes children, t, h, hr, hfields => by
      rw [sampledObjects] at hfields
      rcases listing_container_cases h with
        ⟨_, _, hclasses⟩ | ⟨hshape, heq⟩ | ⟨entries, hshape, hresult, rfl, hclasses⟩
      · rw [hclasses]
        exact fun c hc => by cases hc
      · rw [hshape] at hfields
        rw [heq] at h hr ⊢
        exact listingOfFirst_reaches typing package r origin name children t h hr hfields
      · rw [hshape] at hfields
        rw [hclasses] at hr ⊢
        have hagree : ∀ p ∈ entries, ∀ q ∈ entries, p.1 = q.1 → p.2 = q.2 :=
          hfields _ (List.mem_append_right _ (List.mem_singleton_self _)) entries hresult
        intro c hc
        rcases List.mem_append.mp hc with hc | hc
        · -- one of the children leads there, and its type is that of a field
          obtain ⟨p, hp, hpath⟩ := listingOfChildren_reaches typing package r children entries
            hresult (fun d hd => hr d (List.mem_append_left _ hd))
            (fun o ho => hfields o (List.mem_append_left _ ho)) c hc
          obtain ⟨q, hq, hqp⟩ := exists_field_of_mem_entries hagree hp
          rw [← hqp] at hpath
          exact .field rfl (hr _ (List.mem_append_right _ (List.mem_singleton_self _))) hq hpath
        · rw [List.mem_singleton.mp hc]
          exact .reference rfl

theorem listingOfFirst_reaches (typing : StringTyping) (package : String) (r : Registry)
    (origin : Origin) (name : String) :
    ∀ (children : List (String × Element)) (t : FieldType),
      (listingOfFirst typing package origin name children).result = .ok t →
      (∀ c ∈ (listingOfFirst typing package origin name children).classes,
        r.find? c.qualifiedName = some c) →
      (∀ o ∈ sampledInFirst origin name children, o.FieldsAgree typing package) →
      ∀ c ∈ (listingOfFirst typing package origin name children).classes,
        r.Reaches t c.qualifiedName
  | [], _, _, _, _ => fun c hc => by cases hc
  | (tag, first) :: _, t, h, hr, hfields => by
      obtain ⟨u, hu, rfl⟩ := exists_of_listingOfFirst h
      rw [listingOfFirst] at hr ⊢
      rw [sampledInFirst] at hfields
      intro c hc
      have hpath := listing_reaches typing package r _ first u hu hr hfields c hc
      exact hpath.congr (FieldType.reference?_boxed u)

theorem listingOfChildren_reaches (typing : StringTyping) (package : String) (r : Registry) :
    ∀ (children : List (String × Element)) (entries : List (String × FieldType)),
      (listingOfChildren typing package children).result = .ok entries →
      (∀ c ∈ (listingOfChildren typing package children).classes,
        r.find? c.qualifiedName = some c) →
      (∀ o ∈ sampledInChildren children, o.FieldsAgree typing package) →
      ∀ c ∈ (listingOfChildren typing package children).classes,
        ∃ p ∈ entries, r.Reaches p.2 c.qualifiedName
  | [], _, _, _, _ => fun c hc => by cases hc
  | (field, child) :: others, entries, h, hr, hfields => by
      obtain ⟨name, u, rest, hname, hchild, hothers, rfl, hclasses⟩ := exists_of_listingOfChildren h
      rw [sampledInChildren, hname] at hfields
      rw [hclasses] at hr ⊢
      intro c hc
      rcases List.mem_append.mp hc with hc | hc
      · refine ⟨(field, u), List.mem_cons_self, ?_⟩
        exact listing_reaches typing package r name child u hchild
          (fun d hd => hr d (List.mem_append_left _ hd))
          (fun o ho => hfields o (List.mem_append_left _ ho)) c hc
      · obtain ⟨p, hp, hpath⟩ := listingOfChildren_reaches typing package r others rest
          hothers (fun d hd => hr d (List.mem_append_right _ hd))
          (fun o ho => hfields o (List.mem_append_right _ ho)) c hc
        exact ⟨p, List.mem_cons_of_mem _ hp, hpath⟩

end

section Run

variable {options : Options} {rootName package name : String} {element : Element} {s : Schema}

/-- The registered names are those of the listed classes. -/
theorem mem_keys_iff_of_run (hroot : splitRoot rootName = .ok (package, name))
    (hrun : run options rootName element = .ok s) (n : String) :
    n ∈ s.registry.keys ↔ n ∈ (listing options.stringTyping package name element).names := by
  rw [(listing_of_run hroot hrun).2]
  exact Keyed.mem_keys_foldl_insert.trans (or_iff_left List.not_mem_nil)

theorem resolved_of_run (hroot : splitRoot rootName = .ok (package, name))
    (hrun : run options rootName element = .ok s) :
    s.registry.Closed ∧ s.root.RefersWithin s.registry.keys := by
  obtain ⟨hresult, hregistry⟩ := listing_of_run hroot hrun
  obtain ⟨hgrounded, hwithin⟩ := listing_grounded options.stringTyping package name element
  constructor
  · rw [hregistry]
    exact Registry.closed_empty.foldl_register hgrounded (List.nil_subset _)
  · exact (hwithin s.root hresult s.root (List.mem_singleton_self _)).mono
      (fun n hn => (mem_keys_iff_of_run hroot hrun n).mpr hn)

/-- No reference in the schema of a document leads nowhere, whether identical classes are merged or
not. -/
theorem resolved_of_infer (hinfer : infer options rootName element = .ok s) :
    s.registry.Closed ∧ s.root.RefersWithin s.registry.keys := by
  obtain ⟨package, name, hroot⟩ := exists_splitRoot_of_infer hinfer
  refine infer_invariant (fun u hrun => resolved_of_run hroot hrun) (fun u hu => ?_) hinfer
  have h := u.represents_merge
  refine ⟨h.closed hu.1, ?_⟩
  rw [u.root_merge]
  exact h.refersWithin hu.2

theorem reaches_of_run (hroot : splitRoot rootName = .ok (package, name))
    (hclasses : ClassesAgree options.stringTyping package (sampledObjects name element))
    (hfields : ∀ o ∈ sampledObjects name element, o.FieldsAgree options.stringTyping package)
    (hrun : run options rootName element = .ok s) :
    ∀ n ∈ s.registry.keys, s.registry.Reaches s.root n := by
  intro n hn
  obtain ⟨hresult, hregistry⟩ := listing_of_run hroot hrun
  obtain ⟨c, hc, rfl⟩ := List.mem_map.mp ((mem_keys_iff_of_run hroot hrun n).mp hn)
  refine listing_reaches options.stringTyping package s.registry name element s.root hresult
    (fun d hd => ?_) hfields c hc
  rw [hregistry]
  exact hclasses.find?_eq_some hresult Keyed.empty d hd

/-- **A schema is the type of the root and exactly the classes that it leads to**, if sampled
objects that are proposed one name give one class and children of one object with one name have
one type. -/
theorem infer_reaches (hroot : splitRoot rootName = .ok (package, name))
    (hclasses : ClassesAgree options.stringTyping package (sampledObjects name element))
    (hfields : ∀ o ∈ sampledObjects name element, o.FieldsAgree options.stringTyping package)
    (hinfer : infer options rootName element = .ok s) : s.IsReached := by
  obtain ⟨unmerged, hrun, rfl⟩ := exists_of_map_eq_ok hinfer
  obtain ⟨hclosed, hwithin⟩ := resolved_of_run hroot hrun
  have hreaches := reaches_of_run hroot hclasses hfields hrun
  split
  · exact Schema.isReached_merge hclosed hwithin hreaches
  · exact Schema.isReached_of_closed hclosed hwithin hreaches

end Run

/-- An object around two objects with the same parts, one of them in a list. -/
def twinObjects : Element :=
  .container .jsonObject [] [("owner", .container .jsonObject [] [("id", .scalar (.bool true))]),
    ("pets", .container .jsonArray []
      [("0", .container .jsonObject [] [("id", .scalar (.bool false))])])]

theorem infer_reaches_twinObjects :
    ∃ s, infer ⟨.literal, true⟩ "p.R" twinObjects = .ok s ∧ s.IsReached := by
  have hroot : splitRoot "p.R" = .ok ("p", "R") := rfl
  have hobjects : sampledObjects "R" twinObjects
      = [⟨"Owner", [], [("id", .scalar (.bool true))]⟩,
        ⟨"Pet", [], [("id", .scalar (.bool false))]⟩,
        ⟨"R", [], [("owner", .container .jsonObject [] [("id", .scalar (.bool true))]),
          ("pets", .container .jsonArray []
            [("0", .container .jsonObject [] [("id", .scalar (.bool false))])])]⟩] := rfl
  have hclasses : ClassesAgree .literal "p" (sampledObjects "R" twinObjects) := by
    intro o ho o' ho' hname
    rw [hobjects] at ho ho'
    simp only [List.mem_cons, List.not_mem_nil, or_false] at ho ho'
    rcases ho with rfl | rfl | rfl <;> rcases ho' with rfl | rfl | rfl <;>
      first
        | rfl
        | exact absurd hname (by decide)
  have hfields : ∀ o ∈ sampledObjects "R" twinObjects, o.FieldsAgree .literal "p" := by
    intro o ho entries hentries
    rw [hobjects] at ho
    simp only [List.mem_cons, List.not_mem_nil, or_false] at ho
    rcases ho with rfl | rfl | rfl <;> cases hentries <;> decide
  obtain ⟨s, hrun⟩ : ∃ s, run ⟨.literal, true⟩ "p.R" twinObjects = .ok s := ⟨_, rfl⟩
  have hinfer : infer ⟨.literal, true⟩ "p.R" twinObjects = .ok s.merge :=
    congrArg (Except.map Schema.merge) hrun
  exact ⟨s.merge, hinfer, infer_reaches hroot hclasses hfields hinfer⟩

/-- An object with two parts of one name, the later of which is no object. -/
def replacedField : Element :=
  .container .xml []
    [("a", .container .xml [] [("x", .scalar (.token "u")), ("y", .scalar (.token "v"))]),
      ("b", .scalar (.token "w")), ("a", .scalar (.token "z"))]

/-- The class of the earlier part stays registered, and nothing leads to it any more. -/
theorem infer_replacedField :
    ∃ s, infer .standard "p.R" replacedField = .ok s ∧ "p.A" ∈ s.registry.keys ∧
      ¬ s.registry.Reaches s.root "p.A" := by
  refine ⟨⟨.objectRef "p.R", Keyed.ofList [⟨"p.A", Keyed.ofList [("x", .string), ("y", .string)]⟩,
    ⟨"p.R", Keyed.ofList [("a", .string), ("b", .string)]⟩]⟩, rfl, by decide, fun h => ?_⟩
  cases h with
  | reference h => exact absurd h (by decide)
  | field h hfind hentry hreaches =>
      -- the root's class has two fields, and both are strings
      cases h
      cases hfind
      have hstring : ∀ entry ∈ [("a", FieldType.string), ("b", FieldType.string)],
          entry.2.reference? = none := by decide
      have hnone := hstring _ hentry
      cases hreaches with
      | reference h => rw [hnone] at h; cases h
      | field h _ _ _ => rw [hnone] at h; cases h

end Specimen.Inference
