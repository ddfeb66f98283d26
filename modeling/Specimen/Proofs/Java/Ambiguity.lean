import Specimen.Proofs.Java.Boxing
import Specimen.Proofs.Java.Links
import Specimen.Proofs.Schema.Alike

set_option autoImplicit false

/-! # Which types are written alike

The types of fields are written into one flat space of names: those of the built-in types, and the
names of classes, which come from documents and may be anything. `generate_typeText_eq_iff` says
when the two meet. Two types of fields of a class are written alike exactly if they are the same,
or if in one of them, in some lists, stands a reference to a class whose written name is just what
is written for the part of the other that stands in as many lists (`Mimics`). For that the written
name has to be one of ten names or of the form `List<…>` (`IsBuiltIn`).

Both types are taken apart list by list as long as both are lists (`exists_common_parts`). What is
left is written alike, and at least one of the two is no list. Two references are then the same
because a written name stands for one class only, two types of scalars because they are boxed
alike, and a list is never written like the type of a scalar.
-/

namespace Specimen.Schema.FieldType

/-- Two types have parts in equally many lists, of which at least one is no list. -/
theorem exists_common_parts (t u : FieldType) :
    ∃ depth part part', t.part? depth = some part ∧ u.part? depth = some part' ∧
      (part.isList = false ∨ part'.isList = false) := by
  induction t generalizing u with
  | listOf item ih =>
      cases u with
      | listOf item' =>
          obtain ⟨depth, part, part', hpart, hpart', hlist⟩ := ih item'
          exact ⟨depth + 1, part, part', hpart, hpart', hlist⟩
      | _ => exact ⟨0, _, _, rfl, rfl, Or.inr rfl⟩
  | _ => exact ⟨0, _, u, rfl, rfl, Or.inl rfl⟩

/-- A type is determined by any of its parts and the number of lists that it stands in. -/
theorem eq_of_part?_eq {t u part : FieldType} {depth : Nat} (ht : t.part? depth = some part)
    (hu : u.part? depth = some part) : t = u := by
  induction depth generalizing t u with
  | zero => exact Option.some.inj (ht.trans hu.symm)
  | succ depth ih =>
      cases t with
      | listOf item =>
          cases u with
          | listOf item' => exact congrArg listOf (ih ht hu)
          | _ => cases hu
      | _ => cases ht

/-- A part refers to what the type refers to. -/
theorem reference?_of_part? {t part : FieldType} {depth : Nat} (h : t.part? depth = some part) :
    part.reference? = t.reference? := by
  induction depth generalizing t with
  | zero =>
      obtain rfl : t = part := Option.some.inj h
      rfl
  | succ depth ih =>
      cases t with
      | listOf item =>
          show part.reference? = item.reference?
          exact ih h
      | _ => cases h

theorem eq_objectRef_of_reference? {t : FieldType} {n : String} (hlist : t.isList = false)
    (h : t.reference? = some n) : t = .objectRef n := by
  cases t with
  | listOf item => cases hlist
  | objectRef name => exact congrArg objectRef (Option.some.inj h)
  | _ => cases h

theorem className?_eq_none_of_reference? {t : FieldType} (h : t.reference? = none) :
    t.className? = none := by
  cases t with
  | objectRef name => cases h
  | _ => rfl

end Specimen.Schema.FieldType

namespace Specimen.Java

open Specimen.Document Specimen.Inference Specimen.Schema

/-! ## Built-in types -/

/-- The names that are written for types other than lists and references. -/
def builtInNames : List String :=
  ["Object", "boolean", "int", "long", "double", "String", "Boolean", "Integer", "Long", "Double"]

/-- The text is one that is written for a type that is no reference. -/
def IsBuiltIn (written : String) : Prop :=
  written ∈ builtInNames ∨ ∃ inner, written = "List<" ++ inner ++ ">"

/-- The types of scalars with what is written for them, outside of lists and inside. -/
def scalarTexts : Nat → List (FieldType × String)
  | 0 => [(.null, "Object"), (.boolean, "boolean"), (.integer, "int"), (.long, "long"),
      (.double, "double"), (.string, "String")]
  | _ + 1 => [(.null, "Object"), (.boolean, "Boolean"), (.boxedInteger, "Integer"),
      (.boxedLong, "Long"), (.boxedDouble, "Double"), (.string, "String")]

variable {package : String}

theorem mem_scalarTexts {t part : FieldType} {depth : Nat} (ht : t.WellBoxed)
    (hpart : t.part? depth = some part) (hlist : part.isList = false)
    (hclass : part.className? = none) :
    (part, partText package depth part) ∈ scalarTexts depth := by
  obtain ⟨hboxed, hnumber⟩ := ht depth part hpart
  clear hpart
  cases depth <;> cases part <;>
    simp_all [FieldType.isList, FieldType.className?, FieldType.boxedNumbers, FieldType.numbers,
      partText, typeText, argumentText, scalarTexts]

/-- Different types of scalars are written differently where they stand in equally many lists. -/
theorem eq_of_mem_scalarTexts {depth : Nat} {p q : FieldType × String}
    (hp : p ∈ scalarTexts depth) (hq : q ∈ scalarTexts depth) (h : p.2 = q.2) : p.1 = q.1 := by
  have hall : ∀ p ∈ scalarTexts depth, ∀ q ∈ scalarTexts depth, p.2 = q.2 → p.1 = q.1 := by
    cases depth <;> simp only [scalarTexts] <;> decide
  exact hall p hp q hq h

theorem partText_mem_builtInNames {part : FieldType} (hlist : part.isList = false)
    (hclass : part.className? = none) (depth : Nat) :
    partText package depth part ∈ builtInNames := by
  cases depth <;> cases part <;>
    simp_all [FieldType.isList, FieldType.className?, partText, typeText, argumentText,
      builtInNames]

/-- A list is not written like the type of a scalar. -/
theorem list_not_mem_builtInNames (inner : String) : "List<" ++ inner ++ ">" ∉ builtInNames := by
  have hprefix : ∀ written ∈ builtInNames, ¬ "List<".toList <+: written.toList := by decide
  intro h
  refine hprefix _ h ?_
  rw [String.append_assoc, String.toList_append]
  exact List.prefix_append _ _

theorem exists_partText_of_isList {part : FieldType} (hlist : part.isList = true) (depth : Nat) :
    ∃ inner, partText package depth part = "List<" ++ inner ++ ">" := by
  cases part with
  | listOf item => cases depth <;> exact ⟨_, rfl⟩
  | _ => cases hlist

theorem isBuiltIn_partText {part : FieldType} (hclass : part.className? = none) (depth : Nat) :
    IsBuiltIn (partText package depth part) := by
  cases hlist : part.isList with
  | false => exact Or.inl (partText_mem_builtInNames hlist hclass depth)
  | true => exact Or.inr (exists_partText_of_isList hlist depth)

/-! ## Written alike -/

/-- In the first type, in some lists, stands a reference to a class whose written name is what is
written for the part of the second type that stands in as many lists and is no reference. -/
def Mimics (package : String) (t u : FieldType) : Prop :=
  ∃ depth n part, t.part? depth = some (.objectRef n) ∧ u.part? depth = some part ∧
    part.className? = none ∧
    typeText package (.objectRef n) = partText package depth part

theorem Mimics.typeText_eq {t u : FieldType} (h : Mimics package t u) :
    typeText package t = typeText package u := by
  obtain ⟨depth, n, part, ht, hu, _, hwritten⟩ := h
  rw [typeText_eq_inLists package ht, typeText_eq_inLists package hu, partText_objectRef, hwritten]

/-- Types that are written alike have parts in equally many lists that are written alike, of which
at least one is no list. -/
theorem exists_parts_written_alike {t u : FieldType} (h : typeText package t = typeText package u) :
    ∃ depth part part', t.part? depth = some part ∧ u.part? depth = some part' ∧
      (part.isList = false ∨ part'.isList = false) ∧
      partText package depth part = partText package depth part' := by
  obtain ⟨depth, part, part', hpart, hpart', hlist⟩ := FieldType.exists_common_parts t u
  rw [typeText_eq_inLists package hpart, typeText_eq_inLists package hpart'] at h
  exact ⟨depth, part, part', hpart, hpart', hlist, inLists_injective depth h⟩

/-- What is written like the type of a scalar is no list. -/
theorem isList_eq_false_of_partText_eq {depth : Nat} {part part' : FieldType}
    (hclass : part.className? = none) (hlist : part.isList = false)
    (h : partText package depth part = partText package depth part') : part'.isList = false := by
  by_contra hlist'
  rw [Bool.not_eq_false] at hlist'
  obtain ⟨inner, hinner⟩ : ∃ inner, partText package depth part' = "List<" ++ inner ++ ">" :=
    exists_partText_of_isList hlist' depth
  refine list_not_mem_builtInNames inner ?_
  rw [← hinner, ← h]
  exact partText_mem_builtInNames hlist hclass depth

/-- Parts that are no references, at least one of which is no list either, are the same if they
are written alike in equally many lists. -/
theorem eq_of_partText_eq {t u part part' : FieldType} {depth : Nat} (ht : t.WellBoxed)
    (hu : u.WellBoxed) (hpart : t.part? depth = some part) (hpart' : u.part? depth = some part')
    (hclass : part.className? = none) (hclass' : part'.className? = none)
    (hlist : part.isList = false ∨ part'.isList = false)
    (h : partText package depth part = partText package depth part') : part = part' := by
  have hboth : part.isList = false ∧ part'.isList = false := by
    rcases hlist with hlist | hlist
    · exact ⟨hlist, isList_eq_false_of_partText_eq hclass hlist h⟩
    · exact ⟨isList_eq_false_of_partText_eq hclass' hlist h.symm, hlist⟩
  exact eq_of_mem_scalarTexts (mem_scalarTexts ht hpart hboth.1 hclass)
    (mem_scalarTexts hu hpart' hboth.2 hclass') h

/-- What is written for a class is the name of no other class. -/
theorem typeText_objectRef_inj {n n' : String} (hn : '.' ∈ n.toList) (hn' : '.' ∈ n'.toList)
    (h : typeText package (.objectRef n) = typeText package (.objectRef n')) : n = n' := by
  rw [← resolve_typeText package hn, h, resolve_typeText package hn']

/-- **Types that are written alike** are the same, or one of them refers to a class that is written
like a part of the other one. -/
theorem typeText_eq_iff {t u : FieldType} (ht : t.WellBoxed) (hu : u.WellBoxed)
    (htpoint : ∀ n, t.reference? = some n → '.' ∈ n.toList)
    (hupoint : ∀ n, u.reference? = some n → '.' ∈ n.toList) :
    typeText package t = typeText package u ↔ t = u ∨ Mimics package t u ∨ Mimics package u t := by
  constructor
  · intro h
    obtain ⟨depth, part, part', hpart, hpart', hlist, hwritten⟩ := exists_parts_written_alike h
    have hreference := FieldType.reference?_of_part? hpart
    have hreference' := FieldType.reference?_of_part? hpart'
    -- one reference alone is the mimicry; two references, or none, have to be the same
    cases hclass : part.className? with
    | some n =>
        obtain rfl : part = .objectRef n := FieldType.className?_eq_some_iff.mp hclass
        rw [partText_objectRef] at hwritten
        cases hclass' : part'.className? with
        | some n' =>
            obtain rfl : part' = .objectRef n' := FieldType.className?_eq_some_iff.mp hclass'
            rw [partText_objectRef] at hwritten
            obtain rfl := typeText_objectRef_inj (htpoint n hreference.symm)
              (hupoint n' hreference'.symm) hwritten
            exact Or.inl (FieldType.eq_of_part?_eq hpart hpart')
        | none => exact Or.inr (Or.inl ⟨depth, n, part', hpart, hpart', hclass', hwritten⟩)
    | none =>
        cases hclass' : part'.className? with
        | some n' =>
            obtain rfl : part' = .objectRef n' := FieldType.className?_eq_some_iff.mp hclass'
            rw [partText_objectRef] at hwritten
            exact Or.inr (Or.inr ⟨depth, n', part, hpart', hpart, hclass, hwritten.symm⟩)
        | none =>
            obtain rfl := eq_of_partText_eq ht hu hpart hpart' hclass hclass' hlist hwritten
            exact Or.inl (FieldType.eq_of_part?_eq hpart hpart')
  · rintro (rfl | h | h)
    · rfl
    · exact h.typeText_eq
    · exact h.typeText_eq.symm

/-- A class that is written like a type without references is written like a built-in type. -/
theorem isBuiltIn_of_typeText_eq {t u : FieldType} {n : String} (hn : t.reference? = some n)
    (hu : u.reference? = none) (h : typeText package t = typeText package u) :
    IsBuiltIn (typeText package (.objectRef n)) := by
  obtain ⟨depth, part, part', hpart, hpart', hlist, hwritten⟩ := exists_parts_written_alike h
  have hclass' : part'.className? = none :=
    FieldType.className?_eq_none_of_reference? ((FieldType.reference?_of_part? hpart').trans hu)
  -- the first part is the reference itself: as a list it would be written like a scalar
  have hnotList : part.isList = false := by
    rcases hlist with hlist | hlist
    · exact hlist
    · exact isList_eq_false_of_partText_eq hclass' hlist hwritten.symm
  obtain rfl : part = .objectRef n :=
    FieldType.eq_objectRef_of_reference? hnotList ((FieldType.reference?_of_part? hpart).trans hn)
  rw [← partText_objectRef package depth n, hwritten]
  exact isBuiltIn_partText hclass' depth

/-! ## The files of a document -/

/-- **What is written for a type is ambiguous only through the names of classes.** In the file of a
class, two fields are declared with the same type exactly if they have the same type, or if one of
them refers to a class that is written like a part of the other one's type; and a field that refers
to a class is declared like a type without references only if the class is written like a built-in
type. -/
theorem generate_typeText_eq_iff {options : Options} {rootName text : String} {format : Format}
    {s : Schema} (h : generate options rootName text format = .ok s) :
    ∃ models, ClassModel.ofRegistry s.registry = .ok models ∧
      SourceFile.ofRegistry s.registry = .ok (models.map SourceFile.ofModel) ∧
      ∀ m ∈ models, ∀ f ∈ m.fields,
        (∀ g ∈ m.fields, typeText m.package f.type = typeText m.package g.type ↔
          f.type = g.type ∨ Mimics m.package f.type g.type ∨ Mimics m.package g.type f.type) ∧
        ∀ n, f.type.reference? = some n →
          n ∈ s.registry.keys ∧
          ∀ u : FieldType, u.reference? = none →
            typeText m.package f.type = typeText m.package u →
              IsBuiltIn (typeText m.package (.objectRef n)) := by
  obtain ⟨element, hread, hinfer⟩ := exists_of_bind_eq_ok h
  obtain ⟨hmodels, _⟩ := ofRegistry_of_infer (isTreeOf_of_read hread) hinfer
  refine ⟨_, hmodels, ?_, fun m hm f hf => ?_⟩
  · rw [SourceFile.ofRegistry, hmodels]
    rfl
  -- what the types of a class's fields have in common, from the registered class
  have hfield : ∀ g ∈ m.fields, g.type.WellBoxed ∧ g.type.RefersWithin s.registry.keys := by
    intro g hg
    obtain ⟨c, hc, entry, hentry, htypes⟩ := exists_entry_of_mem_fields hmodels hm hg
    rw [htypes g.type List.mem_cons_self]
    exact ⟨wellBoxed_of_infer hinfer c hc entry hentry,
      (resolved_of_infer hinfer).1 c hc entry hentry⟩
  have hpoint : ∀ g ∈ m.fields, ∀ n, g.type.reference? = some n → '.' ∈ n.toList :=
    fun g hg n hn => point_mem_of_infer hinfer n ((hfield g hg).2 n hn)
  refine ⟨fun g hg => ?_, fun n hn => ⟨(hfield f hf).2 n hn, fun u hu hwritten => ?_⟩⟩
  · exact typeText_eq_iff (hfield f hf).1 (hfield g hg).1 (hpoint f hf) (hpoint g hg)
  · exact isBuiltIn_of_typeText_eq hn hu hwritten

/-- An object with an empty object that is called like the type of its other member. -/
def twoStrings : String := "\x7b\"string\":\x7b\x7d,\"s\":\"x\"\x7d"

theorem read_twoStrings :
    readJson twoStrings = .ok (.object [("string", .object []), ("s", .text "x")]) := by
  obtain ⟨_, hname⟩ := @Json.readString_append ['s', 't', 'r', 'i', 'n', 'g'] (by simp)
    [':', '\x7b', '\x7d', ',', '"', 's', '"', ':', '"', 'x', '"', '\x7d']
  obtain ⟨_, hfield⟩ := @Json.readString_append ['s'] (by simp)
    [':', '"', 'x', '"', '\x7d']
  obtain ⟨_, hvalue⟩ := @Json.readString_append ['x'] (by simp) ['\x7d']
  simp only [List.cons_append, List.nil_append] at hname hfield hvalue
  have htext : twoStrings.toList = '\x7b' :: '"' :: 's' :: 't' :: 'r' :: 'i' :: 'n' :: 'g' :: '"' ::
      [':', '\x7b', '\x7d', ',', '"', 's', '"', ':', '"', 'x', '"', '\x7d'] := by decide
  rw [readJson, Json.read_of_toList htext]
  simp [Json.readValue, Json.readMembers, hname, hfield, hvalue, Json.firstKey, Json.skipSpace,
    Json.isSpace, Json.readColon, Json.readSeparator, Json.nextKey, Json.readScalar, Json.finish,
    Json.depthLimit, Json.Value.ofMembers, Json.insertMember, Except.map, Except.mapError]

/-- The schema of that object. -/
def twoStringsSchema : Schema :=
  ⟨.objectRef "p.R", Keyed.ofList
    [⟨"p.String", Keyed.empty⟩,
      ⟨"p.R", Keyed.ofList [("string", .objectRef "p.String"), ("s", .string)]⟩]⟩

theorem generate_twoStrings : generate .standard "p.R" twoStrings .json = .ok twoStringsSchema := by
  rw [generate, Document.read, read_twoStrings]
  rfl

theorem generate_typeText_eq_iff_twoStrings :
    generate .standard "p.R" twoStrings .json = .ok twoStringsSchema ∧
      ∃ models, ClassModel.ofRegistry twoStringsSchema.registry = .ok models ∧
        ∃ m ∈ models, ∃ f ∈ m.fields, f.type.reference? = some "p.String" ∧
          IsBuiltIn (typeText m.package (.objectRef "p.String")) ∧
          ∃ g ∈ m.fields, g.type = .string ∧
            (Mimics m.package f.type g.type ∨ Mimics m.package g.type f.type) := by
  obtain ⟨models, hmodels, _, hall⟩ := generate_typeText_eq_iff generate_twoStrings
  have hroot : ⟨"p.R", Keyed.ofList [("string", .objectRef "p.String"), ("s", .string)]⟩
      ∈ twoStringsSchema.registry.toList := List.mem_cons_of_mem _ (List.mem_singleton_self _)
  obtain ⟨m, hm, hmodel⟩ := exists_mem_of_mapM hmodels hroot
  have hfields := hall m hm
  refine ⟨generate_twoStrings, models, hmodels, m, hm, ?_⟩
  cases hmodel
  obtain ⟨hiff, hbuiltIn⟩ := hfields _ List.mem_cons_self
  refine ⟨_, List.mem_cons_self, rfl, ?_, _, List.mem_cons_of_mem _ List.mem_cons_self, rfl, ?_⟩
  · exact (hbuiltIn "p.String" rfl).2 .string rfl rfl
  · have hsame := (hiff _ (List.mem_cons_of_mem _ List.mem_cons_self)).mp rfl
    exact hsame.resolve_left fun h => by cases h

/-- Two fields of one class, one of which refers to a generated class, can be declared with the
same type although their types are not the same. -/
theorem exists_fields_written_alike :
    generate .standard "p.R" twoStrings .json = .ok twoStringsSchema ∧
      ∃ models, ClassModel.ofRegistry twoStringsSchema.registry = .ok models ∧
        ∃ m ∈ models, ∃ f ∈ m.fields, ∃ g ∈ m.fields,
          f.type = .objectRef "p.String" ∧ "p.String" ∈ twoStringsSchema.registry.keys ∧
            g.type = .string ∧ typeText m.package f.type = typeText m.package g.type := by
  refine ⟨generate_twoStrings, _, rfl, _, List.mem_cons_of_mem _ List.mem_cons_self, _,
    List.mem_cons_self, _, List.mem_cons_of_mem _ List.mem_cons_self, rfl, ?_, rfl, rfl⟩
  decide

end Specimen.Java
