import Specimen.Proofs.Inference.Listing

set_option autoImplicit false

/-! # No reference leads nowhere

A builder can be fed any number of documents, some of which may fail halfway and leave the
classes of their finished parts behind, and a class that is registered again under a taken name
replaces the one before. Still every class that is referred to is registered, in every state of
the builder (`Session.run_closed`).

The reason is the order of a listing (`listing_grounded`): a class comes behind all classes that
its fields refer to, so cutting a listing off anywhere leaves no open reference, and since keys
are never taken away, replacing a class opens none either.
-/

namespace Specimen.Schema

/-- The class that a type refers to, if it refers to one, is among the given names. -/
def FieldType.RefersWithin (t : FieldType) (names : List String) : Prop :=
  ∀ n, t.reference? = some n → n ∈ names

/-- All classes that the fields of a class refer to are among the given names. -/
def ClassDefinition.RefersWithin (c : ClassDefinition) (names : List String) : Prop :=
  ∀ entry ∈ c.fields.toList, entry.2.RefersWithin names

/-- All classes that the fields of registered classes refer to are registered. -/
def Registry.Closed (r : Registry) : Prop := ∀ c ∈ r.toList, c.RefersWithin r.keys

instance (t : FieldType) (names : List String) : Decidable (t.RefersWithin names) :=
  inferInstanceAs (Decidable (∀ n ∈ t.reference?, n ∈ names))

instance (c : ClassDefinition) (names : List String) : Decidable (c.RefersWithin names) :=
  inferInstanceAs (Decidable (∀ entry ∈ c.fields.toList, entry.2.RefersWithin names))

instance (r : Registry) : Decidable r.Closed :=
  inferInstanceAs (Decidable (∀ c ∈ r.toList, c.RefersWithin r.keys))

/-- Each class of a list refers to known classes and to earlier ones of the list only. -/
def Grounded : List String → List ClassDefinition → Prop
  | _, [] => True
  | known, c :: cs => c.RefersWithin known ∧ Grounded (c.qualifiedName :: known) cs

theorem FieldType.refersWithin_of_none {t : FieldType} (h : t.reference? = none)
    (names : List String) : t.RefersWithin names := by
  intro n hn
  rw [h] at hn
  cases hn

theorem FieldType.RefersWithin.mono {t : FieldType} {names names' : List String}
    (h : t.RefersWithin names) (hsub : names ⊆ names') : t.RefersWithin names' :=
  fun n hn => hsub (h n hn)

theorem ClassDefinition.RefersWithin.mono {c : ClassDefinition} {names names' : List String}
    (h : c.RefersWithin names) (hsub : names ⊆ names') : c.RefersWithin names' :=
  fun entry hentry => (h entry hentry).mono hsub

theorem Grounded.mono {known known' : List String} {cs : List ClassDefinition}
    (h : Grounded known cs) (hsub : known ⊆ known') : Grounded known' cs := by
  induction cs generalizing known known' with
  | nil => trivial
  | cons c cs ih => exact ⟨h.1.mono hsub, ih h.2 (List.cons_subset_cons _ hsub)⟩

theorem Grounded.append {known : List String} {cs ds : List ClassDefinition}
    (hcs : Grounded known cs)
    (hds : Grounded (cs.map ClassDefinition.qualifiedName ++ known) ds) :
    Grounded known (cs ++ ds) := by
  induction cs generalizing known with
  | nil => exact hds
  | cons c cs ih =>
      refine ⟨hcs.1, ih hcs.2 (hds.mono ?_)⟩
      intro n hn
      simpa [or_left_comm] using hn

theorem Grounded.of_append {known : List String} {cs ds : List ClassDefinition}
    (h : Grounded known (cs ++ ds)) :
    Grounded known cs ∧ Grounded (cs.map ClassDefinition.qualifiedName ++ known) ds := by
  induction cs generalizing known with
  | nil => exact ⟨trivial, h⟩
  | cons c cs ih =>
      obtain ⟨hcs, hds⟩ := ih h.2
      refine ⟨⟨h.1, hcs⟩, hds.mono fun n hn => ?_⟩
      simpa [or_left_comm] using hn

theorem Grounded.refersWithin {known : List String} {cs : List ClassDefinition}
    (h : Grounded known cs) {c : ClassDefinition} (hc : c ∈ cs) :
    c.RefersWithin (cs.map ClassDefinition.qualifiedName ++ known) := by
  obtain ⟨before, behind, rfl⟩ := List.append_of_mem hc
  refine h.of_append.2.1.mono fun n hn => ?_
  rw [List.mem_append] at hn
  rw [List.map_append, List.mem_append, List.mem_append]
  exact hn.imp Or.inl id

/-! ## Registering grounded classes -/

theorem Registry.closed_empty : Registry.Closed Keyed.empty := by
  intro c hc
  simp [Keyed.empty] at hc

/-- Registering a class under a new or a taken name opens no reference if the class itself does
not. -/
theorem Registry.Closed.register {r : Registry} (hr : r.Closed) {c : ClassDefinition}
    (hc : c.RefersWithin r.keys) : (r.register c).Closed := by
  have hkeys : r.keys ⊆ (r.register c).keys := fun n hn => Keyed.mem_keys_insert.mpr (Or.inr hn)
  intro d hd
  rcases Keyed.mem_insert hd with rfl | hd
  · exact hc.mono hkeys
  · exact (hr d hd).mono hkeys

theorem Registry.Closed.foldl_register {r : Registry} (hr : r.Closed) {known : List String}
    {cs : List ClassDefinition} (hcs : Grounded known cs) (hknown : known ⊆ r.keys) :
    (cs.foldl Registry.register r).Closed := by
  induction cs generalizing r known with
  | nil => exact hr
  | cons c cs ih =>
      refine ih (hr.register (hcs.1.mono hknown)) hcs.2 ?_
      intro n hn
      refine Keyed.mem_keys_insert.mpr ?_
      rcases List.mem_cons.mp hn with rfl | hn
      · exact Or.inl rfl
      · exact Or.inr (hknown hn)

end Specimen.Schema

namespace Specimen.Inference

open Specimen.Document Specimen.Schema

/-! ## Types of scalars -/

/-- The types that values without parts can have. -/
def scalarTypes : List FieldType := [.null, .boolean, .integer, .long, .double, .string]

theorem numberType_mem (x : Number.Binary64) : numberType x ∈ scalarTypes := by
  unfold numberType
  split_ifs <;> simp [scalarTypes]

theorem tokenType_mem (t : String) : tokenType t ∈ scalarTypes := by
  unfold tokenType
  split_ifs
  · simp [scalarTypes]
  · simp [scalarTypes]
  · cases tokenNumber? t with
    | none => simp [scalarTypes]
    | some x => exact numberType_mem x

theorem attributeType_mem (value : String) : attributeType value ∈ scalarTypes := by
  have h := tokenType_mem value
  unfold attributeType
  split
  · simp [scalarTypes]
  · exact h

theorem leafType_mem (typing : StringTyping) (s : Scalar) : leafType typing s ∈ scalarTypes := by
  cases s with
  | null => simp [leafType, scalarTypes]
  | bool b => simp [leafType, scalarTypes]
  | number x => exact numberType_mem x
  | token t => exact tokenType_mem t
  | text t =>
      cases typing with
      | literal => simp [leafType, scalarTypes]
      | sniff => exact tokenType_mem t

theorem reference?_of_mem_scalarTypes {t : FieldType} (h : t ∈ scalarTypes) :
    t.reference? = none := by
  revert t
  decide

theorem reference?_attributeType (value : String) : (attributeType value).reference? = none :=
  reference?_of_mem_scalarTypes (attributeType_mem value)

theorem reference?_leafType (typing : StringTyping) (s : Scalar) :
    (leafType typing s).reference? = none :=
  reference?_of_mem_scalarTypes (leafType_mem typing s)

/-! ## Listings are grounded -/

/-- The names of the classes of a listing. -/
def Listing.names {α : Type} (l : Listing α) : List String :=
  l.classes.map ClassDefinition.qualifiedName

/-- A listing's classes refer to earlier ones only, and the types in its result to listed
classes. -/
structure Listing.IsGrounded {α : Type} (types : α → List FieldType) (l : Listing α) : Prop where
  classes : Grounded [] l.classes
  result : ∀ a, l.result = .ok a → ∀ t ∈ types a, t.RefersWithin l.names

/-- A settled entry is one of the entries. -/
theorem mem_of_mem_settledFields {entries : List (String × FieldType)} {p : String × FieldType}
    (hp : p ∈ (settledFields entries).toList) : p ∈ entries :=
  (Keyed.of_lastWith_eq_some (Keyed.mem_settled.mp hp)).1

/-- The class of an object refers to the classes that its children's types refer to. -/
theorem settledFields_refersWithin {attributes : List (String × String)}
    {entries : List (String × FieldType)} {names : List String}
    (h : ∀ t ∈ entries.map Prod.snd, t.RefersWithin names) (qualifiedName : String) :
    (ClassDefinition.mk qualifiedName
      (settledFields (attributeEntries attributes ++ entries))).RefersWithin names := by
  intro entry hentry
  rcases List.mem_append.mp (mem_of_mem_settledFields hentry) with hattr | hchild
  · obtain ⟨⟨name, value⟩, _, rfl⟩ := List.mem_map.mp hattr
    exact FieldType.refersWithin_of_none (reference?_attributeType value) names
  · exact h entry.2 (List.mem_map_of_mem hchild)

/-- A result that is no reference and comes without classes. -/
theorem Listing.isGrounded_of_none {t : FieldType} (h : t.reference? = none) :
    (Listing.mk (.ok t) []).IsGrounded (fun t => [t]) := by
  refine ⟨trivial, fun a ha u hu => ?_⟩
  cases ha
  rw [List.mem_singleton.mp hu]
  exact FieldType.refersWithin_of_none h _

/-- A failure leaves grounded classes behind. -/
theorem Listing.isGrounded_of_error {α : Type} {types : α → List FieldType} {f : Failure}
    {classes : List ClassDefinition} (h : Grounded [] classes) :
    (Listing.mk (.error f) classes).IsGrounded types :=
  ⟨h, fun _ ha => by cases ha⟩

mutual

theorem listing_grounded (typing : StringTyping) (package : String) :
    ∀ (name : String) (element : Element),
      (listing typing package name element).IsGrounded (fun t => [t])
  | _, .scalar s => Listing.isGrounded_of_none (reference?_leafType typing s)
  | name, .container origin attributes children => by
      rw [listing]
      cases containerShape origin attributes children with
      | error f => exact Listing.isGrounded_of_error trivial
      | ok shape =>
          cases shape with
          | null => exact Listing.isGrounded_of_none rfl
          | list => exact listingOfFirst_grounded typing package origin name children
          | object =>
              have ih := listingOfChildren_grounded typing package children
              cases hresult : (listingOfChildren typing package children).result with
              | error f =>
                  simp only [hresult]
                  exact Listing.isGrounded_of_error ih.classes
              | ok entries =>
                  simp only [hresult]
                  have hentries := ih.result entries hresult
                  -- the object's own class is the last one, behind those of its children
                  refine ⟨ih.classes.append ⟨?_, trivial⟩, fun a ha t ht n hn => ?_⟩
                  · exact (settledFields_refersWithin hentries _).mono (List.subset_append_left _ _)
                  · cases ha
                    rw [List.mem_singleton.mp ht] at hn
                    cases hn
                    simp [Listing.names]

theorem listingOfFirst_grounded (typing : StringTyping) (package : String) (origin : Origin)
    (name : String) :
    ∀ children : List (String × Element),
      (listingOfFirst typing package origin name children).IsGrounded (fun t => [t])
  | [] => Listing.isGrounded_of_none rfl
  | (tag, first) :: _ => by
      rw [listingOfFirst]
      have ih := listing_grounded typing package
        (if origin = .xml then tag else singular name) first
      refine ⟨ih.classes, fun a ha t ht n hn => ?_⟩
      cases hresult : (listing typing package
          (if origin = .xml then tag else singular name) first).result with
      | error f => rw [hresult] at ha; cases ha
      | ok u =>
          rw [hresult] at ha
          cases ha
          -- the list refers to what its element refers to: boxing changes no reference
          rw [List.mem_singleton.mp ht] at hn
          exact ih.result u hresult u (List.mem_singleton_self u) n
            ((FieldType.reference?_boxed u).symm.trans hn)

theorem listingOfChildren_grounded (typing : StringTyping) (package : String) :
    ∀ children : List (String × Element),
      (listingOfChildren typing package children).IsGrounded (List.map Prod.snd)
  | [] => ⟨trivial, fun a ha t ht => by cases ha; cases ht⟩
  | (field, child) :: others => by
      rw [listingOfChildren]
      cases capitalize field with
      | error f => exact Listing.isGrounded_of_error trivial
      | ok name =>
          have ihChild := listing_grounded typing package name child
          have ihOthers := listingOfChildren_grounded typing package others
          cases hchild : (listing typing package name child).result with
          | error f =>
              simp only [hchild]
              exact Listing.isGrounded_of_error ihChild.classes
          | ok u =>
              simp only [hchild]
              refine ⟨ihChild.classes.append (ihOthers.classes.mono (List.nil_subset _)),
                fun a ha t ht => ?_⟩
              cases hothers : (listingOfChildren typing package others).result with
              | error f => rw [hothers] at ha; cases ha
              | ok entries =>
                  rw [hothers] at ha
                  cases ha
                  -- the first entry refers to classes of the child, the others to later ones
                  rw [Listing.names, List.map_append]
                  rcases List.mem_cons.mp ht with rfl | ht
                  · exact (ihChild.result _ hchild _ (List.mem_singleton_self _)).mono
                      (List.subset_append_left _ _)
                  · exact (ihOthers.result entries hothers t ht).mono
                      (List.subset_append_right _ _)

end

/-! ## Any number of documents -/

/-- Every class that a registered class or an answer refers to is registered. -/
structure Session.Resolved (s : Session) : Prop where
  classes : s.registry.Closed
  results : ∀ t, .ok t ∈ s.results → t.RefersWithin s.registry.keys

theorem Session.resolved_fresh : Session.fresh.Resolved :=
  ⟨Registry.closed_empty, fun t ht => by cases ht⟩

/-- One call, successful or not, leaves no reference open. -/
theorem Session.Resolved.call {s : Session} (hs : s.Resolved) (c : Call) :
    (s.call c).Resolved := by
  obtain ⟨hclasses, hresult⟩ := listing_grounded c.typing c.package c.name c.element
  rw [Session.call_eq_listing]
  refine ⟨hs.classes.foldl_register hclasses (List.nil_subset _), fun t ht => ?_⟩
  -- an earlier answer still refers to registered classes, since no key is taken away
  rcases List.mem_append.mp ht with hold | hnew
  · refine (hs.results t hold).mono (fun n hn => ?_)
    exact Keyed.mem_keys_foldl_insert.mpr (Or.inr hn)
  · refine (hresult t (List.mem_singleton.mp hnew).symm t (List.mem_singleton_self t)).mono
      (fun n hn => ?_)
    exact Keyed.mem_keys_foldl_insert.mpr (Or.inl hn)

theorem Session.resolved_run (calls : List Call) : (Session.run calls).Resolved :=
  Session.run_invariant Session.resolved_fresh (fun _ c hs => hs.call c) calls

/-- **Referential closure.** After any calls of one builder, every class that a field of a
registered class refers to is registered, and so is every class that a type refers to that was
given by one of the calls; and each class is registered under its own name. -/
theorem Session.run_closed (calls : List Call) :
    (∀ c ∈ (Session.run calls).registry.toList, ∀ entry ∈ c.fields.toList,
      ∀ n, entry.2.reference? = some n → n ∈ (Session.run calls).registry.keys) ∧
    (∀ t, .ok t ∈ (Session.run calls).results →
      ∀ n, t.reference? = some n → n ∈ (Session.run calls).registry.keys) ∧
    (∀ n ∈ (Session.run calls).registry.keys,
      ∃ c, (Session.run calls).registry.find? n = some c ∧ c.qualifiedName = n) := by
  have h := Session.resolved_run calls
  refine ⟨h.classes, h.results, fun n hn => ?_⟩
  obtain ⟨c, hc, rfl⟩ := List.mem_map.mp hn
  exact ⟨c, Keyed.find?_eq_some_iff.mpr ⟨hc, rfl⟩, rfl⟩

end Specimen.Inference
