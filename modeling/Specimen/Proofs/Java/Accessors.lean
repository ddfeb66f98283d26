import Mathlib.Data.List.Nodup
import Specimen.Proofs.Java.Emission

set_option autoImplicit false

/-! # When accessors clash

The names of a field's accessors are made from the field's name with its first character in upper
case. The fields of a class have different names, but names can become one by that: `a` and `A`,
or `ß` and `SS`. `generate_accessors` says that there is no other way in which the accessors of a
class clash. All of them have different names exactly if the names of the fields stay different
with their first characters in upper case; and where two names become one, it is the two setters
that clash, and the two getters if both fields hold truth values or neither does.

Getters and setters are told apart by their first letters, whatever is behind them, and so are the
two kinds of getters (`FieldModel.getter_ne_setter`, `FieldModel.getter_eq_iff`).
-/

namespace Specimen.Java

open Specimen.Document Specimen.Inference Specimen.Schema Specimen.Text

/-! ## The accessors of two fields -/

namespace FieldModel

variable (f g : String × FieldType)

theorem setter_eq_iff :
    (named f).setter = (named g).setter ↔ capitalized f.1 = capitalized g.1 := by
  show "set" ++ capitalized f.1 = "set" ++ capitalized g.1 ↔ _
  exact String.append_right_inj "set"

/-- **A getter is never called like a setter.** -/
theorem getter_ne_setter : (named f).getter ≠ (named g).setter := by
  show (if f.2.isBoolean then "is" else "get") ++ capitalized f.1 ≠ "set" ++ capitalized g.1
  cases f.2.isBoolean <;> simp [← String.toList_inj]

/-- Two getters are called alike if the names of the fields become one and one word is in front. -/
theorem getter_eq_iff :
    (named f).getter = (named g).getter ↔
      capitalized f.1 = capitalized g.1 ∧ f.2.isBoolean = g.2.isBoolean := by
  show (if f.2.isBoolean then "is" else "get") ++ capitalized f.1
    = (if g.2.isBoolean then "is" else "get") ++ capitalized g.1 ↔ _
  cases f.2.isBoolean <;> cases g.2.isBoolean
  case false.false => simp [String.append_right_inj]
  case true.true => simp [String.append_right_inj]
  all_goals simp [← String.toList_inj]

end FieldModel

/-! ## The accessors of a class -/

/-- The names of all accessors of a class: of its getters and of its setters. -/
def ClassModel.accessors (m : ClassModel) : List String :=
  m.fields.map FieldModel.getter ++ m.fields.map FieldModel.setter

/-- **The accessors of a class have different names** exactly if its fields have different names in
upper case. -/
theorem accessors_nodup_iff (c : ClassDefinition) :
    (ClassModel.named c).accessors.Nodup ↔ (c.fields.keys.map capitalized).Nodup := by
  have hsetters : (ClassModel.named c).fields.map FieldModel.setter
      = (c.fields.keys.map capitalized).map ("set" ++ ·) := by
    simp only [ClassModel.named, Keyed.keys, List.map_map]
    rfl
  have hinj : Function.Injective (fun name : String => "set" ++ name) :=
    fun _ _ h => (String.append_right_inj "set").mp h
  rw [ClassModel.accessors, List.nodup_append, hsetters, List.nodup_map_iff hinj]
  constructor
  · exact fun h => h.2.1
  · intro h
    refine ⟨?_, h, ?_⟩
    · -- getters with one name would belong to fields whose names become one
      rw [Keyed.keys, List.map_map, List.Nodup, List.pairwise_map] at h
      rw [ClassModel.named, List.map_map, List.Nodup, List.pairwise_map]
      refine h.imp (fun {f g} hfg hgetters => hfg ?_)
      exact ((FieldModel.getter_eq_iff f g).mp hgetters).1
    · rw [← hsetters]
      intro getter hgetter setter hsetter
      simp only [ClassModel.named, List.map_map, List.mem_map, Function.comp_apply]
        at hgetter hsetter
      obtain ⟨f, _, rfl⟩ := hgetter
      obtain ⟨g, _, rfl⟩ := hsetter
      exact FieldModel.getter_ne_setter f g

/-- **Accessors clash only where names of fields become one in upper case.** Each class of the
schema of a document has a model, with the fields of the class, in which

* no getter is called like a setter;
* two setters are called alike exactly if the names of their fields are the same once their first
  characters are in upper case;
* two getters are called alike exactly if in addition both fields hold truth values or neither does;
* so all accessors have different names exactly if the names of the fields stay different. -/
theorem generate_accessors {options : Options} {rootName text : String} {format : Format}
    {s : Schema} (h : generate options rootName text format = .ok s) :
    ∀ c ∈ s.registry.toList, ∃ m, ClassModel.ofClass c = .ok m ∧
      m.fields.map FieldModel.name = c.fields.keys ∧
      (∀ f ∈ m.fields, ∀ g ∈ m.fields,
        f.getter ≠ g.setter ∧
        (f.setter = g.setter ↔ capitalized f.name = capitalized g.name) ∧
        (f.getter = g.getter ↔
          capitalized f.name = capitalized g.name ∧ f.type.isBoolean = g.type.isBoolean)) ∧
      (m.accessors.Nodup ↔ (c.fields.keys.map capitalized).Nodup) := by
  intro c hc
  obtain ⟨element, hread, hinfer⟩ := exists_of_bind_eq_ok h
  have hnamed : c.HasNamedFields := hasNamedFields_of_infer (isTreeOf_of_read hread) hinfer c hc
  refine ⟨ClassModel.named c, ClassModel.ofClass_of_hasNamedFields hnamed, ?_, ?_,
    accessors_nodup_iff c⟩
  · simp only [ClassModel.named, List.map_map]
    rfl
  · intro f hf g hg
    obtain ⟨f, _, rfl⟩ := List.mem_map.mp hf
    obtain ⟨g, _, rfl⟩ := List.mem_map.mp hg
    exact ⟨FieldModel.getter_ne_setter f g, FieldModel.setter_eq_iff f g,
      FieldModel.getter_eq_iff f g⟩

/-- The list `a` and the truth value `A` share their setter, but not their getter. The object `b`
shares neither with the list. -/
theorem generate_accessors_threeMembers :
    generate .standard "p.R" threeMembers .json = .ok threeMembersSchema ∧
      ∃ m, ClassModel.ofClass threeFields = .ok m ∧
        ∃ list truth object, m.fields = [list, truth, object] ∧
          (list.setter = truth.setter ∧ list.getter ≠ truth.getter) ∧
          (list.setter ≠ object.setter ∧ list.getter ≠ object.getter) ∧
          ¬ m.accessors.Nodup := by
  have hroot : threeFields ∈ threeMembersSchema.registry.toList :=
    List.mem_cons_of_mem _ (List.mem_singleton_self _)
  obtain ⟨m, hmodel, _, hpairs, hnodup⟩ := generate_accessors generate_threeMembers _ hroot
  refine ⟨generate_threeMembers, m, hmodel, ?_⟩
  obtain ⟨_, rfl⟩ := ClassModel.ofClass_eq_ok_iff.mp hmodel
  -- the model's fields are those of the class, so each pair of them can be compared
  obtain ⟨_, hsetter, hgetter⟩ := hpairs (.named ("a", .listOf .string)) (by decide)
    (.named ("A", .boolean)) (by decide)
  obtain ⟨_, hsetter', hgetter'⟩ := hpairs (.named ("a", .listOf .string)) (by decide)
    (.named ("b", .objectRef "p.B")) (by decide)
  refine ⟨_, _, _, rfl, ⟨hsetter.mpr (by decide), fun h => ?_⟩,
    ⟨fun h => ?_, fun h => ?_⟩, fun h => ?_⟩
  · exact absurd (hgetter.mp h).2 (by decide)
  · exact absurd (hsetter'.mp h) (by decide)
  · exact absurd (hgetter'.mp h).1 (by decide)
  · exact absurd (hnodup.mp h) (by decide)

/-- An object with two members whose names differ in the case of a letter. -/
def twoCases : String := "\x7b\"a\":\"x\",\"A\":\"x\"\x7d"

theorem read_twoCases :
    readJson twoCases = .ok (.object [("a", .text "x"), ("A", .text "x")]) := by
  obtain ⟨_, hlower⟩ := @Json.readString_append ['a'] (by simp)
    [':', '"', 'x', '"', ',', '"', 'A', '"', ':', '"', 'x', '"', '\x7d']
  obtain ⟨_, hupper⟩ := @Json.readString_append ['A'] (by simp) [':', '"', 'x', '"', '\x7d']
  obtain ⟨_, hfirst⟩ := @Json.readString_append ['x'] (by simp)
    [',', '"', 'A', '"', ':', '"', 'x', '"', '\x7d']
  obtain ⟨_, hsecond⟩ := @Json.readString_append ['x'] (by simp) ['\x7d']
  simp only [List.cons_append, List.nil_append] at hlower hupper hfirst hsecond
  have htext : twoCases.toList = '\x7b' :: '"' :: 'a' :: '"' ::
      [':', '"', 'x', '"', ',', '"', 'A', '"', ':', '"', 'x', '"', '\x7d'] := by decide
  rw [readJson, Json.read_of_toList htext]
  simp [Json.readValue, Json.readMembers, hlower, hupper, hfirst, hsecond, Json.firstKey,
    Json.skipSpace, Json.isSpace, Json.readColon, Json.readSeparator, Json.nextKey,
    Json.readScalar, Json.finish, Json.depthLimit, Json.Value.ofMembers, Json.insertMember,
    Except.map, Except.mapError]

/-- The class of that object. -/
def twoCasesClass : ClassDefinition := ⟨"p.R", Keyed.ofList [("a", .string), ("A", .string)]⟩

theorem generate_twoCases :
    generate .standard "p.R" twoCases .json
      = .ok ⟨.objectRef "p.R", Keyed.ofList [twoCasesClass]⟩ := by
  rw [generate, Document.read, read_twoCases]
  rfl

/-- The accessors of two fields of one class can have the same names. -/
theorem accessors_twoCases :
    generate .standard "p.R" twoCases .json
        = .ok ⟨.objectRef "p.R", Keyed.ofList [twoCasesClass]⟩ ∧
      ∃ m, ClassModel.ofClass twoCasesClass = .ok m ∧
        m.accessors = ["getA", "getA", "setA", "setA"] ∧ ¬ m.accessors.Nodup := by
  have hnamed : ∀ field ∈ twoCasesClass.fields.toList, field.1 ≠ "" := by decide
  have hmodel : ClassModel.ofClass twoCasesClass = .ok (ClassModel.named twoCasesClass) :=
    ClassModel.ofClass_of_hasNamedFields hnamed
  have haccessors : (ClassModel.named twoCasesClass).accessors
      = ["getA", "getA", "setA", "setA"] := by decide
  refine ⟨generate_twoCases, _, hmodel, haccessors, ?_⟩
  rw [haccessors]
  decide

end Specimen.Java
