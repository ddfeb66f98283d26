import Mathlib.Data.List.Nodup
import Specimen.Proofs.Inference.Reachability
import Specimen.Proofs.Java.Emission
import Specimen.Proofs.Java.TypeText

set_option autoImplicit false

/-! # Names that lead to other files

A file refers to a class of its own package by its simple name and to any other class by its
qualified name. Read back that way (`resolve`), each name that a type writes is that of exactly one
of the classes that are written with it (`generate_links`).

Three facts come together. What fields refer to is registered, whether identical classes are merged
or not (`resolved_of_infer`); no two registered classes have one name; and a registered name has a
point, so what is cut at its last point is the name again (`resolve_typeText`). That the name's last
part may not be the name which was proposed for the class does not matter here.
-/

namespace Specimen.Java

open Specimen.Document Specimen.Inference Specimen.Schema

/-! ## What is written for a reference -/

/-- The qualified name of the class that a name stands for in a file of a package. -/
def resolve (package written : String) : String :=
  if '.' ∈ written.toList then written else qualify package written

/-- The name of a model's class by the package and the simple name that its file has. -/
def ClassModel.fullName (m : ClassModel) : String := qualify m.package m.simpleName

/-- **What is written for a class stands for it**, in the files of whatever package. -/
theorem resolve_typeText (package : String) {n : String} (h : '.' ∈ n.toList) :
    resolve package (typeText package (.objectRef n)) = n := by
  show resolve package (if (splitQualified n).1 = package then (splitQualified n).2 else n) = n
  split_ifs with hpackage
  · rw [resolve, if_neg (point_not_mem_splitQualified n), ← hpackage, qualify_splitQualified h]
  · rw [resolve, if_pos h]

/-! ## What it leads to -/

section Infer

variable {options : Options} {rootName : String} {element : Element} {s : Schema}

/-- The names of classes are qualified. -/
theorem point_mem_of_infer (hinfer : infer options rootName element = .ok s) :
    ∀ n ∈ s.registry.keys, '.' ∈ n.toList := by
  intro n hn
  obtain ⟨package, name, hroot⟩ := exists_splitRoot_of_infer hinfer
  obtain ⟨o, _, rfl⟩ := exists_sampled_of_mem_keys hroot hinfer hn
  rw [toList_qualify]
  simp

end Infer

/-- Of keyed entries, exactly one has the key of an entry. -/
theorem filter_key_eq_singleton {α : Type} {key : α → String} {xs : List α}
    (hxs : (xs.map key).Nodup) {x : α} (hx : x ∈ xs) :
    xs.filter (fun y => key y = key x) = [x] := by
  obtain ⟨before, after, rfl⟩ := List.append_of_mem hx
  rw [List.map_append, List.map_cons, List.nodup_middle, List.nodup_cons, List.mem_append,
    not_or] at hxs
  have hbefore : before.filter (fun y => key y = key x) = [] := by
    refine List.filter_eq_nil_iff.mpr fun y hy heq => hxs.1.1 ?_
    rw [← of_decide_eq_true heq]
    exact List.mem_map_of_mem hy
  have hafter : after.filter (fun y => key y = key x) = [] := by
    refine List.filter_eq_nil_iff.mpr fun y hy heq => hxs.1.2 ?_
    rw [← of_decide_eq_true heq]
    exact List.mem_map_of_mem hy
  rw [List.filter_append, List.filter_cons_of_pos (by simp), hbefore, hafter]
  rfl

/-- The models of classes have the names of their classes. -/
theorem fullName_named {c : ClassDefinition} (h : '.' ∈ c.qualifiedName.toList) :
    (ClassModel.named c).fullName = c.qualifiedName := qualify_splitQualified h

/-- A registered name is the name of exactly one model. -/
theorem exists_target {r : Registry} (hpoint : ∀ n ∈ r.keys, '.' ∈ n.toList) {n : String}
    (hn : n ∈ r.keys) :
    ∃ target, target.qualifiedName = n ∧
      (r.toList.map ClassModel.named).filter (fun m => m.fullName = n) = [target] := by
  obtain ⟨c, hc, rfl⟩ := List.mem_map.mp hn
  have hname : ∀ d ∈ r.toList, (ClassModel.named d).fullName = d.qualifiedName :=
    fun d hd => fullName_named (hpoint _ (Keyed.key_mem_keys hd))
  have hkeys : (r.toList.map ClassModel.named).map ClassModel.fullName = r.keys := by
    rw [List.map_map]
    exact List.map_congr_left hname
  have hnodup : ((r.toList.map ClassModel.named).map ClassModel.fullName).Nodup := by
    rw [hkeys]
    exact r.nodup
  refine ⟨ClassModel.named c, rfl, ?_⟩
  have hone := filter_key_eq_singleton hnodup (List.mem_map_of_mem hc)
  rwa [hname c hc] at hone

/-- **No link is broken.** Whatever class a type of a field, a getter or a setter refers to, in a
list or not, the name that is written for it in the file of the field's class stands for exactly
one of the classes that are written. -/
theorem generate_links {options : Options} {rootName text : String} {format : Format} {s : Schema}
    (h : generate options rootName text format = .ok s) :
    ∃ models, ClassModel.ofRegistry s.registry = .ok models ∧
      SourceFile.ofRegistry s.registry = .ok (models.map SourceFile.ofModel) ∧
      ∀ m ∈ models, ∀ f ∈ m.fields, ∀ t ∈ [f.type, f.returns, f.parameterType],
        ∀ n, t.reference? = some n →
          ∃ written target, typeText m.package t = inLists (listDepth t) written ∧
            target.qualifiedName = n ∧
            models.filter (fun m' => m'.fullName = resolve m.package written) = [target] := by
  obtain ⟨element, hread, hinfer⟩ := exists_of_bind_eq_ok h
  obtain ⟨hmodels, _⟩ := ofRegistry_of_infer (isTreeOf_of_read hread) hinfer
  have hpoint := point_mem_of_infer hinfer
  refine ⟨_, hmodels, ?_, ?_⟩
  · rw [SourceFile.ofRegistry, hmodels]
    rfl
  · intro m hm f hf t ht n hn
    obtain ⟨c, hc, rfl⟩ := List.mem_map.mp hm
    obtain ⟨field, hfield, rfl⟩ := List.mem_map.mp hf
    -- the three types of a field are one type
    obtain rfl : t = field.2 := by simpa [FieldModel.named] using ht
    have hregistered : n ∈ s.registry.keys := (resolved_of_infer hinfer).1 c hc field hfield n hn
    obtain ⟨target, hname, htarget⟩ := exists_target hpoint hregistered
    refine ⟨_, target, typeText_of_reference? _ hn, hname, ?_⟩
    rwa [resolve_typeText _ (hpoint n hregistered)]

theorem generate_links_ownedObject :
    generate .standard "p.R" ownedObject .json = .ok ownedSchema ∧
      ∃ models, ClassModel.ofRegistry ownedSchema.registry = .ok models ∧
        ∃ m ∈ models, ∃ f ∈ m.fields, ∃ written target,
          typeText m.package f.type = written ∧ target.qualifiedName = "p.Owner" ∧
            models.filter (fun m' => m'.fullName = resolve m.package written) = [target] := by
  have hall : ClassModel.ofRegistry ownedSchema.registry
      = .ok [ClassModel.named ⟨"p.Owner", Keyed.empty⟩,
          ClassModel.named ⟨"p.R", Keyed.ofList [("owner", .objectRef "p.Owner")]⟩] := rfl
  obtain ⟨models, hmodels, _, hlinks⟩ := generate_links generate_ownedObject
  obtain rfl := Except.ok.inj (hall.symm.trans hmodels)
  have hroot := List.mem_cons_of_mem (ClassModel.named ⟨"p.Owner", Keyed.empty⟩)
    (List.mem_singleton_self
      (ClassModel.named ⟨"p.R", Keyed.ofList [("owner", .objectRef "p.Owner")]⟩))
  obtain ⟨written, target, hwritten, hname, htarget⟩ :=
    hlinks _ hroot _ List.mem_cons_self _ List.mem_cons_self "p.Owner" rfl
  exact ⟨generate_ownedObject, _, hmodels, _, hroot, _, List.mem_cons_self, written, target,
    hwritten, hname, htarget⟩

end Specimen.Java
