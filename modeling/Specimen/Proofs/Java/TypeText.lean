import Specimen.Java.Source
import Specimen.Proofs.Schema.Boxing

set_option autoImplicit false

/-! # What is written for a type

A type is written by two functions that call each other, one for fields and one for the elements
of a list. Seen from the parts of the type there is one rule (`typeText_eq_inLists`): the part that
stands in some lists is written in as many `List<…>`, as the type of a field if there are none, and
as an element otherwise. What is written in a number of lists can be read off again
(`inLists_injective`).
-/

namespace Specimen.Java

open Specimen.Schema

/-- The number of lists around the elements of a type. -/
def listDepth : FieldType → Nat
  | .listOf item => listDepth item + 1
  | _ => 0

/-- A written type in a number of lists. -/
def inLists : Nat → String → String
  | 0, written => written
  | depth + 1, written => "List<" ++ inLists depth written ++ ">"

/-- A part of a type as it is written where it stands in a number of lists. -/
def partText (package : String) : Nat → FieldType → String
  | 0, part => typeText package part
  | _ + 1, part => argumentText package part

theorem inLists_injective (depth : Nat) : Function.Injective (inLists depth) := by
  intro written written' h
  induction depth with
  | zero => exact h
  | succ depth ih =>
      refine ih ?_
      simpa [inLists] using h

variable (package : String)

theorem argumentText_eq_inLists {t part : FieldType} {depth : Nat}
    (h : t.part? depth = some part) :
    argumentText package t = inLists depth (argumentText package part) := by
  induction depth generalizing t with
  | zero =>
      obtain rfl : t = part := Option.some.inj h
      rfl
  | succ depth ih =>
      cases t with
      | listOf item =>
          rw [argumentText, inLists, ih h]
      | _ => cases h

/-- **A type is written by its parts**, each in the lists that it stands in. -/
theorem typeText_eq_inLists {t part : FieldType} {depth : Nat} (h : t.part? depth = some part) :
    typeText package t = inLists depth (partText package depth part) := by
  cases depth with
  | zero =>
      obtain rfl : t = part := Option.some.inj h
      rfl
  | succ depth =>
      cases t with
      | listOf item =>
          have hitem : item.part? depth = some part := h
          rw [typeText, argumentText_eq_inLists package hitem]
          rfl
      | _ => cases h

/-! ## Primitive types -/

/-- The types that are no references. -/
def primitiveTypes : List FieldType := [.boolean, .integer, .long, .double]

/-- The names of the types that are no references. -/
def primitiveNames : List String := ["boolean", "int", "long", "double"]

/-- No primitive type is written where a reference is needed. -/
theorem partText_not_mem_primitiveNames {part : FieldType} (hpart : part ∈ primitiveTypes)
    {depth : Nat} (hdepth : 0 < depth) : partText package depth part ∉ primitiveNames := by
  cases depth with
  | zero => exact absurd hdepth (Nat.lt_irrefl 0)
  | succ depth =>
      show argumentText package part ∉ primitiveNames
      simp only [primitiveTypes, List.mem_cons, List.not_mem_nil, or_false] at hpart
      rcases hpart with rfl | rfl | rfl | rfl <;> simp [argumentText, primitiveNames]

/-! ## References -/

/-- A reference stands in all lists of a type. -/
theorem part?_listDepth {t : FieldType} {n : String} (h : t.reference? = some n) :
    t.part? (listDepth t) = some (.objectRef n) := by
  induction t with
  | listOf item ih => exact ih h
  | objectRef name =>
      cases h
      rfl
  | _ => cases h

/-- A reference is written in the same way for fields and for elements. -/
theorem partText_objectRef (depth : Nat) (n : String) :
    partText package depth (.objectRef n) = typeText package (.objectRef n) := by
  cases depth <;> rfl

theorem typeText_of_reference? {t : FieldType} {n : String} (h : t.reference? = some n) :
    typeText package t = inLists (listDepth t) (typeText package (.objectRef n)) := by
  rw [typeText_eq_inLists package (part?_listDepth h), partText_objectRef]

end Specimen.Java
