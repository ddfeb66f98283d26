set_option autoImplicit false

/-! # Field types

The type that is inferred for a field or for the elements of a list. The boxed numeric types
stand for numbers where only references are allowed, as elements of a list. A reference names
a class of the registry by its qualified name.
-/

namespace Specimen.Schema

/-- The type of a field or of the elements of a list. -/
inductive FieldType
  /-- No value was seen. -/
  | null
  | boolean
  | integer
  | long
  | double
  | string
  | boxedInteger
  | boxedLong
  | boxedDouble
  /-- A list of elements of one type. -/
  | listOf (item : FieldType)
  /-- An object of the class with this qualified name. -/
  | objectRef (qualifiedName : String)
  deriving DecidableEq

namespace FieldType

/-- The type of list elements for values of a type: numbers are boxed. -/
def boxed : FieldType → FieldType
  | .integer => .boxedInteger
  | .long => .boxedLong
  | .double => .boxedDouble
  | t => t

/-- The type is that of truth values. -/
def isBoolean : FieldType → Bool
  | .boolean => true
  | _ => false

/-- The type is a list of elements. -/
def isList : FieldType → Bool
  | .listOf _ => true
  | _ => false

/-- The type with every class name in it replaced by its image under `f`. -/
def mapRefs (f : String → String) : FieldType → FieldType
  | .listOf item => .listOf (mapRefs f item)
  | .objectRef name => .objectRef (f name)
  | t => t

/-- The class that a type refers to, at any depth of lists. -/
def reference? : FieldType → Option String
  | .listOf item => reference? item
  | .objectRef name => some name
  | _ => none

/-- Boxing keeps the class that a type refers to. -/
theorem reference?_boxed (t : FieldType) : t.boxed.reference? = t.reference? := by
  cases t <;> rfl

/-- Replacing class names replaces the one that a type refers to. -/
theorem reference?_mapRefs (f : String → String) (t : FieldType) :
    (t.mapRefs f).reference? = t.reference?.map f := by
  induction t with
  | listOf item ih => exact ih
  | _ => rfl

end FieldType

end Specimen.Schema
