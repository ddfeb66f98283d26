import Specimen.Proofs.Json.Writing
import Specimen.Proofs.Schema.Representative
import Specimen.Schema.Dump

set_option autoImplicit false

/-! # The JSON text of a schema says all of it

Two schemas with the same JSON text are the same schema, with the same classes and fields in the
same order (`pretty_toJson_inj`). No name can get in the way: names are written with their escapes,
and a type that is a reference is an object, so that no class can be mistaken for a type without
parts by its name.

The value of a schema determines the schema, one level after the other, and holds no numbers, so
its text determines the value.
-/

namespace Specimen.Schema

open Specimen.Json

/-! ## Types -/

theorem FieldType.numberless_toJson (t : FieldType) : t.toJson.Numberless := by
  induction t with
  | listOf item ih =>
      refine .object fun m hm => ?_
      rw [List.mem_singleton.mp hm]
      exact ih
  | objectRef name =>
      refine .object fun m hm => ?_
      rw [List.mem_singleton.mp hm]
      exact .text name
  | _ => exact .text _

theorem FieldType.toJson_injective : Function.Injective FieldType.toJson := by
  intro t
  induction t with
  | listOf item ih =>
      intro u h
      cases u with
      | listOf item' =>
          have hitem : item.toJson = item'.toJson := by simpa [FieldType.toJson] using h
          rw [ih hitem]
      | _ => simp [FieldType.toJson] at h
  | objectRef name =>
      intro u h
      cases u with
      | objectRef name' =>
          have hname : name = name' := by simpa [FieldType.toJson] using h
          rw [hname]
      | _ => simp [FieldType.toJson] at h
  | _ =>
      intro u h
      cases u <;> simp [FieldType.toJson] at h ⊢

/-! ## Classes and registries -/

theorem ClassDefinition.numberless_toJson (c : ClassDefinition) : c.toJson.Numberless := by
  refine .object fun m hm => ?_
  simp only [List.mem_cons, List.not_mem_nil, or_false] at hm
  rcases hm with rfl | rfl
  · exact .text c.qualifiedName
  · refine .object fun m hm => ?_
    obtain ⟨field, _, rfl⟩ := List.mem_map.mp hm
    exact field.2.numberless_toJson

theorem ClassDefinition.toJson_injective : Function.Injective ClassDefinition.toJson := by
  intro c d h
  obtain ⟨hname, hfields⟩ : c.qualifiedName = d.qualifiedName ∧
      c.fields.toList.map (fun field => (field.1, field.2.toJson))
        = d.fields.toList.map (fun field => (field.1, field.2.toJson)) := by
    simpa [ClassDefinition.toJson] using h
  have hinjective : Function.Injective fun field : String × FieldType =>
      (field.1, field.2.toJson) := by
    intro p q hpq
    obtain ⟨hfst, hsnd⟩ := Prod.mk.inj hpq
    exact Prod.ext hfst (FieldType.toJson_injective hsnd)
  exact ClassDefinition.eq_of_signature_eq hname (List.map_injective_iff.mpr hinjective hfields)

theorem Registry.numberless_toJson (r : Registry) : (Registry.toJson r).Numberless := by
  refine .object fun m hm => ?_
  obtain ⟨c, _, rfl⟩ := List.mem_map.mp hm
  exact c.numberless_toJson

theorem Registry.toJson_injective : Function.Injective Registry.toJson := by
  intro r r' h
  have hclasses : r.toList.map (fun c => (c.qualifiedName, c.toJson))
      = r'.toList.map (fun c => (c.qualifiedName, c.toJson)) := by
    simpa [Registry.toJson] using h
  have hinjective : Function.Injective fun c : ClassDefinition => (c.qualifiedName, c.toJson) :=
    fun c d hcd => ClassDefinition.toJson_injective (congrArg Prod.snd hcd)
  exact Keyed.eq_of_toList_eq (List.map_injective_iff.mpr hinjective hclasses)

/-! ## Schemas -/

theorem numberless_toJson (s : Schema) : s.toJson.Numberless := by
  refine .object fun m hm => ?_
  simp only [members, List.mem_cons, List.not_mem_nil, or_false] at hm
  rcases hm with rfl | rfl
  · exact s.root.numberless_toJson
  · exact Registry.numberless_toJson s.registry

theorem toJson_injective : Function.Injective toJson := by
  intro s t h
  obtain ⟨hroot, hregistry⟩ : s.root.toJson = t.root.toJson ∧
      Registry.toJson s.registry = Registry.toJson t.registry := by
    simpa [toJson, members] using h
  cases s
  cases t
  obtain rfl := FieldType.toJson_injective hroot
  obtain rfl := Registry.toJson_injective hregistry
  rfl

/-- **The JSON text of a schema is lossless**: two schemas have the same text exactly if their roots
have the same type and they have the same classes in the same order, each with the same fields in
the same order. -/
theorem pretty_toJson_inj (s t : Schema) :
    pretty s.toJson = pretty t.toJson ↔
      s.root = t.root ∧ s.registry.toList = t.registry.toList := by
  constructor
  · intro h
    have htext : prettyText 0 s.toJson ++ [] = prettyText 0 t.toJson ++ [] := by
      simpa [pretty] using congrArg String.toList h
    obtain ⟨hvalue, _⟩ := prettyText_append_inj s.numberless_toJson t.numberless_toJson htext
    rw [toJson_injective hvalue]
    exact ⟨rfl, rfl⟩
  · rintro ⟨hroot, hregistry⟩
    cases s
    cases t
    obtain rfl := hroot
    obtain rfl := Keyed.eq_of_toList_eq hregistry
    rfl

/-- A reference to a class that is named like a type is not written like the type. -/
example : pretty (FieldType.objectRef "Null").toJson ≠ pretty FieldType.null.toJson := by
  decide

end Specimen.Schema
