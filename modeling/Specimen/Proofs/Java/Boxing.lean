import Specimen.Proofs.Inference.FieldTypes
import Specimen.Proofs.Java.TypeText

set_option autoImplicit false

/-! # Numbers in lists are written as references

The elements of a list have to be references, so `List<int>` may never be written. `run_boxed`
follows this from the documents to the files. Whatever a builder was called with, and however often
its classes are merged afterwards, types stay well boxed; and where such a type is written, each of
its parts is written in the lists that it stands in, a primitive one never by its keyword if there
is a list around it. A file imports lists exactly if one of its types has a list among its parts.
-/

namespace Specimen.Java

open Specimen.Document Specimen.Inference Specimen.Schema

/-- The types of a model's field are all that of a field of a registered class. -/
theorem exists_entry_of_mem_fields {r : Registry} {models : List ClassModel}
    (h : ClassModel.ofRegistry r = .ok models) {m : ClassModel} (hm : m ∈ models) {f : FieldModel}
    (hf : f ∈ m.fields) :
    ∃ c ∈ r.toList, ∃ entry ∈ c.fields.toList,
      ∀ t ∈ [f.type, f.returns, f.parameterType], t = entry.2 := by
  obtain ⟨c, hc, hmodel⟩ := exists_of_mem_mapM h hm
  obtain ⟨fields, hfields, rfl⟩ := exists_of_map_eq_ok hmodel
  obtain ⟨entry, hentry, hfield⟩ := exists_of_mem_mapM hfields hf
  obtain ⟨_, _, rfl⟩ := exists_of_map_eq_ok hfield
  exact ⟨c, hc, entry, hentry, by simp⟩

/-! ## The import of lists -/

/-- A file declares its package, then imports lists or not, and then begins its class. -/
theorem exists_body (package : String) (m : ClassModel) :
    ∃ body, classText package m
      = packageText package ++ (importText m.fields ++ ("public class " ++ body)) := by
  refine ⟨m.simpleName ++ " \x7b" ++ "\n" ++ declarationsText package m.fields ++
    String.join (m.fields.map (accessorsText package)) ++ blankLine ++ line 0 "\x7d", ?_⟩
  have hline : ∀ text, line 0 text = text ++ "\n" := fun text => by rw [line]; rfl
  rw [classText, hline]
  simp only [String.append_assoc]

/-- Behind the declaration of its package, a file begins with the import of lists exactly if a
field is one. -/
theorem contents_import (m : ClassModel) :
    ∃ rest, (SourceFile.ofModel m).contents = packageText m.package ++ rest ∧
      ("import java.util.List;\n".toList <+: rest.toList ↔
        ∃ f ∈ m.fields, f.type.isList = true) := by
  obtain ⟨body, hbody⟩ := exists_body m.package m
  refine ⟨_, hbody, ?_⟩
  rw [importText]
  by_cases hlist : m.fields.any (fun f => f.type.isList) = true
  · rw [if_pos hlist]
    refine iff_of_true ?_ (List.any_eq_true.mp hlist)
    have himport : line 0 "import java.util.List;" = "import java.util.List;\n" := by decide
    rw [himport, String.append_assoc, String.toList_append]
    exact List.prefix_append _ _
  · rw [if_neg hlist]
    refine iff_of_false (fun hprefix => ?_) (fun h => hlist (List.any_eq_true.mpr h))
    -- the first letter is that of `public`
    rw [String.empty_append, String.toList_append] at hprefix
    obtain ⟨behind, hbehind⟩ := hprefix
    simp at hbehind

/-! ## From documents to files -/

/-- **Numbers are boxed exactly in lists.** Take the classes that any calls of one builder leave
behind, failed calls included, and any type, and merge identical classes any number of times. Then

* the type is well boxed if it was given by one of the calls, and so is every type of a field;
* in a file, whatever type a field, a getter or a setter has, no part of it that is boxed stands
  outside of a list, and each part is written in its lists, a primitive one inside of a list not by
  its keyword;
* behind the declaration of its package, a file imports lists exactly if a part of the type of a
  field is a list. -/
theorem run_boxed {calls : List Call} {root : FieldType} {n : Nat} {s : Schema}
    (hs : s = Schema.merge^[n] ⟨root, (Session.run calls).registry⟩) :
    (.ok root ∈ (Session.run calls).results → s.root.WellBoxed) ∧
    (∀ c ∈ s.registry.toList, ∀ entry ∈ c.fields.toList, entry.2.WellBoxed) ∧
    ∀ files, SourceFile.ofRegistry s.registry = .ok files →
      ∃ models, ClassModel.ofRegistry s.registry = .ok models ∧
        files = models.map SourceFile.ofModel ∧
        ∀ m ∈ models,
          (∀ f ∈ m.fields, ∀ t ∈ [f.type, f.returns, f.parameterType],
            ∀ depth part, t.part? depth = some part →
              (part ∈ FieldType.boxedNumbers → 0 < depth) ∧
              ∃ written, typeText m.package t = inLists depth written ∧
                (part ∈ primitiveTypes → 0 < depth → written ∉ primitiveNames)) ∧
          ∃ rest, (SourceFile.ofModel m).contents = packageText m.package ++ rest ∧
            ("import java.util.List;\n".toList <+: rest.toList ↔
              ∃ f ∈ m.fields, ∃ depth item, f.type.part? depth = some (.listOf item)) := by
  obtain ⟨hroot, hregistry⟩ := wellBoxed_merge_iterate n ⟨root, (Session.run calls).registry⟩
  have hboxed : s.registry.WellBoxed := by
    rw [hs]
    exact hregistry (Session.wellBoxed_run calls)
  refine ⟨fun h => ?_, hboxed, fun files hfiles => ?_⟩
  · rw [hs]
    exact hroot ((Session.inferable_run calls).results root h).wellBoxed
  · -- what is written comes from the types of registered fields only
    obtain ⟨models, hmodels, rfl⟩ := exists_of_map_eq_ok hfiles
    refine ⟨models, hmodels, rfl, fun m hm => ⟨fun f hf t ht depth part hpart => ?_, ?_⟩⟩
    · obtain ⟨c, hc, entry, hentry, htypes⟩ := exists_entry_of_mem_fields hmodels hm hf
      have ht' : t.WellBoxed := by
        rw [htypes t ht]
        exact hboxed c hc entry hentry
      refine ⟨(ht' depth part hpart).1, _, typeText_eq_inLists m.package hpart, ?_⟩
      exact fun hprimitive hdepth => partText_not_mem_primitiveNames m.package hprimitive hdepth
    · simp only [← FieldType.isList_iff_exists_part]
      exact contents_import m

/-- Two documents for one builder. The second one has a list of truth values and then a field
without a name, at which the builder fails. -/
def boxedCalls : List Call :=
  [⟨.literal, "p", "R", .container .jsonObject []
      [("rows", .container .jsonArray []
          [("0", .container .jsonArray [] [("0", .scalar (.number .zero))])]),
        ("size", .scalar (.number .zero))]⟩,
    ⟨.literal, "p", "Bad", .container .jsonObject []
      [("inner", .container .jsonObject []
          [("flags", .container .jsonArray [] [("0", .scalar (.bool true))])]),
        ("", .scalar .null)]⟩]

/-- What the builder has registered in the end, with the type of the first document. -/
def boxedSchema : Schema :=
  ⟨.objectRef "p.R", Keyed.ofList
    [⟨"p.R", Keyed.ofList [("rows", .listOf (.listOf .boxedInteger)), ("size", .integer)]⟩,
      ⟨"p.Inner", Keyed.ofList [("flags", .listOf .boolean)]⟩]⟩

theorem run_boxed_failing :
    boxedSchema = Schema.merge^[1] ⟨.objectRef "p.R", (Session.run boxedCalls).registry⟩ ∧
      (.ok (.objectRef "p.R") : Except Failure FieldType) ∈ (Session.run boxedCalls).results ∧
      boxedSchema.root.WellBoxed ∧
      ∃ models, ClassModel.ofRegistry boxedSchema.registry = .ok models ∧
        ∃ m ∈ models, ∃ f ∈ m.fields, f.type = .listOf .boolean ∧
          ∃ written, typeText m.package f.type = inLists 1 written ∧ written ∉ primitiveNames := by
  have hrun : (Session.run boxedCalls).registry = boxedSchema.registry := by decide +kernel
  have hresult : (.ok (.objectRef "p.R") : Except Failure FieldType)
      ∈ (Session.run boxedCalls).results := List.mem_cons_self
  have hmerge : boxedSchema
      = Schema.merge^[1] ⟨.objectRef "p.R", (Session.run boxedCalls).registry⟩ := by
    rw [hrun]
    show boxedSchema = mergeFrom (some "p.R") (.objectRef "p.R") boxedSchema.registry
    rw [mergeFrom_of_eq_nil (by decide)]
    rfl
  obtain ⟨hroot, _, hwritten⟩ := run_boxed hmerge
  obtain ⟨files, hfiles⟩ : ∃ files, SourceFile.ofRegistry boxedSchema.registry = .ok files :=
    ⟨_, rfl⟩
  obtain ⟨models, hmodels, rfl, hall⟩ := hwritten files hfiles
  have hinner : ⟨"p.Inner", Keyed.ofList [("flags", .listOf .boolean)]⟩
      ∈ boxedSchema.registry.toList := List.mem_cons_of_mem _ (List.mem_singleton_self _)
  obtain ⟨m, hm, hmodel⟩ := exists_mem_of_mapM hmodels hinner
  refine ⟨hmerge, hresult, hroot hresult, models, hmodels, m, hm, ?_⟩
  have hfields := (hall m hm).1
  cases hmodel
  obtain ⟨_, written, hwritten, hprimitive⟩ :=
    hfields _ List.mem_cons_self _ List.mem_cons_self 1 .boolean rfl
  exact ⟨_, List.mem_cons_self, rfl, written, hwritten,
    hprimitive (by decide) Nat.one_pos⟩

end Specimen.Java
