import Specimen.Java.Source
import Specimen.Proofs.Inference.FieldNames
import Specimen.Proofs.Json.Reading

set_option autoImplicit false

/-! # Every schema can be written

`SourceFile.ofClass` says what the file of a class is, read off the class itself: it declares the
fields in their order and defines a getter and a setter for each. Writing a registry goes through
models of its classes and can fail on the way. It does not for the schema of a document
(`ofRegistry_of_infer`), because all fields of its classes have names; and what it writes is the
file of each class, in the order of the registry.
-/

namespace Specimen.Java

open Specimen.Document Specimen.Inference Specimen.Schema Specimen.Text

/-! ## The file of a class -/

/-- A name with its first character in upper case; no name stays none. -/
def capitalized (name : String) : String :=
  match name.toList with
  | [] => ""
  | c :: r => String.ofList (upperCase c ++ r)

/-- The declaration of a field in a class of a package. -/
def fieldDeclaration (package : String) : String × FieldType → String
  | (name, type) => line 1 ("private " ++ typeText package type ++ " " ++ name ++ ";")

/-- The getter and the setter of a field in a class of a package. -/
def fieldAccessors (package : String) : String × FieldType → String
  | (name, type) =>
    (blankLine ++
      line 1 ("public " ++ typeText package type ++ " " ++
        ((if type = .boolean then "is" else "get") ++ capitalized name) ++ "() \x7b") ++
      line 2 ("return " ++ name ++ ";") ++ line 1 "\x7d") ++
    (blankLine ++
      line 1 ("public void " ++ ("set" ++ capitalized name) ++ "(" ++ typeText package type ++
        " " ++ name ++ ") \x7b") ++
      line 2 ("this." ++ name ++ " = " ++ name ++ ";") ++ line 1 "\x7d")

/-- The file of a class, with the declarations and the accessors of exactly its fields. -/
def SourceFile.ofClass (c : ClassDefinition) : SourceFile :=
  let (package, simpleName) := splitQualified c.qualifiedName
  let fields := c.fields.toList
  { path := sourcePath package simpleName
    contents :=
      packageText package ++
        (if fields.any fun f => f.2.isList then line 0 "import java.util.List;" ++ blankLine
          else "") ++
        line 0 ("public class " ++ simpleName ++ " \x7b") ++
        (if fields.isEmpty then ""
          else blankLine ++ String.join (fields.map (fieldDeclaration package))) ++
        String.join (fields.map (fieldAccessors package)) ++ blankLine ++ line 0 "\x7d" }

/-! ## Models of classes whose fields have names -/

theorem capitalize_of_ne_empty {name : String} (h : name ≠ "") :
    capitalize name = .ok (capitalized name) := by
  unfold capitalize capitalized
  cases hname : name.toList with
  | nil => exact absurd (String.ext hname) h
  | cons c r => rfl

/-- The model of a field that has a name. -/
def FieldModel.named (field : String × FieldType) : FieldModel where
  name := field.1
  type := field.2
  getter := (if field.2.isBoolean then "is" else "get") ++ capitalized field.1
  returns := field.2
  setter := "set" ++ capitalized field.1
  parameter := field.1
  parameterType := field.2

/-- The model of a class whose fields have names. -/
def ClassModel.named (c : ClassDefinition) : ClassModel where
  qualifiedName := c.qualifiedName
  package := (splitQualified c.qualifiedName).1
  simpleName := (splitQualified c.qualifiedName).2
  fields := c.fields.toList.map FieldModel.named

theorem ClassModel.ofClass_of_hasNamedFields {c : ClassDefinition} (h : c.HasNamedFields) :
    ClassModel.ofClass c = .ok (ClassModel.named c) := by
  have hfields : (c.fields.toList.mapM fun (name, type) => FieldModel.ofField name type)
      = .ok (c.fields.toList.map FieldModel.named) := by
    refine mapM_eq_ok_map fun field hfield => ?_
    show (capitalize field.1).map _ = _
    rw [capitalize_of_ne_empty (h field hfield)]
    rfl
  rw [ClassModel.ofClass, hfields]
  rfl

/-- **A class has a model** exactly if all of its fields have names. -/
theorem ClassModel.ofClass_eq_ok_iff {c : ClassDefinition} {m : ClassModel} :
    ClassModel.ofClass c = .ok m ↔ c.HasNamedFields ∧ m = ClassModel.named c := by
  constructor
  · intro h
    obtain ⟨fields, hfields, _⟩ := exists_of_map_eq_ok h
    have hnamed : c.HasNamedFields := by
      intro field hfield
      obtain ⟨f, _, hf⟩ := exists_mem_of_mapM hfields hfield
      obtain ⟨_, hcapitalize, _⟩ := exists_of_map_eq_ok hf
      exact ne_empty_of_capitalize hcapitalize
    rw [ClassModel.ofClass_of_hasNamedFields hnamed] at h
    exact ⟨hnamed, (Except.ok.inj h).symm⟩
  · rintro ⟨hnamed, rfl⟩
    exact ClassModel.ofClass_of_hasNamedFields hnamed

theorem ClassModel.ofRegistry_of_hasNamedFields {r : Registry}
    (h : ∀ c ∈ r.toList, c.HasNamedFields) :
    ClassModel.ofRegistry r = .ok (r.toList.map ClassModel.named) :=
  mapM_eq_ok_map fun c hc => ClassModel.ofClass_of_hasNamedFields (h c hc)

theorem isBoolean_eq_decide (t : FieldType) : t.isBoolean = decide (t = .boolean) := by
  cases t <;> rfl

theorem accessorsText_named (package : String) (field : String × FieldType) :
    accessorsText package (FieldModel.named field) = fieldAccessors package field := by
  have hgetter : (if field.2.isBoolean then "is" else "get")
      = if field.2 = .boolean then "is" else "get" := by
    simp [isBoolean_eq_decide]
  simp only [accessorsText, getterText, setterText, FieldModel.named, fieldAccessors, hgetter]

/-- The file of a model is the file of its class. -/
theorem SourceFile.ofModel_named (c : ClassDefinition) :
    SourceFile.ofModel (ClassModel.named c) = SourceFile.ofClass c := by
  have hdeclarations : ∀ package, (c.fields.toList.map FieldModel.named).map
      (declarationText package) = c.fields.toList.map (fieldDeclaration package) := by
    intro package
    rw [List.map_map]
    rfl
  have haccessors : ∀ package, (c.fields.toList.map FieldModel.named).map
      (accessorsText package) = c.fields.toList.map (fieldAccessors package) := by
    intro package
    rw [List.map_map]
    exact List.map_congr_left fun field _ => accessorsText_named package field
  have himport : importText (c.fields.toList.map FieldModel.named)
      = if c.fields.toList.any fun f => f.2.isList then line 0 "import java.util.List;" ++ blankLine
        else "" := by
    rw [importText, List.any_map]
    rfl
  rw [SourceFile.ofModel, classText, declarationsText, SourceFile.ofClass]
  simp only [ClassModel.named, hdeclarations, haccessors, himport, List.isEmpty_map]

/-- Classes whose fields have names are written to their files, in the order of the registry. -/
theorem SourceFile.ofRegistry_of_hasNamedFields {r : Registry}
    (h : ∀ c ∈ r.toList, c.HasNamedFields) :
    SourceFile.ofRegistry r = .ok (r.toList.map SourceFile.ofClass) := by
  rw [SourceFile.ofRegistry, ClassModel.ofRegistry_of_hasNamedFields h]
  show Except.ok (List.map _ (List.map _ _)) = _
  rw [List.map_map]
  exact congrArg Except.ok (List.map_congr_left fun c _ => SourceFile.ofModel_named c)

/-! ## The schema of a document -/

theorem ofRegistry_of_infer {options : Options} {rootName : String} {format : Format}
    {element : Element} {s : Schema} (htree : element.IsTreeOf format)
    (hinfer : infer options rootName element = .ok s) :
    ClassModel.ofRegistry s.registry = .ok (s.registry.toList.map ClassModel.named) ∧
      SourceFile.ofRegistry s.registry = .ok (s.registry.toList.map SourceFile.ofClass) := by
  have hnamed := hasNamedFields_of_infer htree hinfer
  exact ⟨ClassModel.ofRegistry_of_hasNamedFields hnamed,
    SourceFile.ofRegistry_of_hasNamedFields hnamed⟩

/-- **What can be inferred can be written.** If a document has a schema, then each of its classes
is written to one file, in the order of the registry, and the file has exactly the fields of the
class, in their order. -/
theorem generate_emits {options : Options} {rootName text : String} {format : Format} {s : Schema}
    (h : generate options rootName text format = .ok s) :
    SourceFile.ofRegistry s.registry = .ok (s.registry.toList.map SourceFile.ofClass) := by
  obtain ⟨element, hread, hinfer⟩ := exists_of_bind_eq_ok h
  exact (ofRegistry_of_infer (isTreeOf_of_read hread) hinfer).2

/-- An object with a list, a truth value and an object in it. The names of the first two differ in
the case of a letter. -/
def threeMembers : String := "\x7b\"a\":[\"x\"],\"A\":true,\"b\":\x7b\x7d\x7d"

theorem read_threeMembers :
    readJson threeMembers
      = .ok (.object [("a", .array [.text "x"]), ("A", .bool true), ("b", .object [])]) := by
  -- each of the four strings, with what is behind its quote
  obtain ⟨_, hlist⟩ := @Json.readString_append ['a'] (by simp)
    ":[\"x\"],\"A\":true,\"b\":\x7b\x7d\x7d".toList
  obtain ⟨_, hitem⟩ := @Json.readString_append ['x'] (by simp)
    "],\"A\":true,\"b\":\x7b\x7d\x7d".toList
  obtain ⟨_, htruth⟩ := @Json.readString_append ['A'] (by simp)
    ":true,\"b\":\x7b\x7d\x7d".toList
  obtain ⟨_, hobject⟩ := @Json.readString_append ['b'] (by simp) ":\x7b\x7d\x7d".toList
  have htext : threeMembers.toList
      = '\x7b' :: '"' :: 'a' :: '"' :: ":[\"x\"],\"A\":true,\"b\":\x7b\x7d\x7d".toList := by
    decide
  simp only [String.reduceToList, List.cons_append, List.nil_append]
    at hlist hitem htruth hobject htext
  rw [readJson, Json.read_of_toList htext]
  simp [Json.readValue, Json.readMembers, Json.readItems, hlist, hitem, htruth, hobject,
    Json.firstKey, Json.firstItem, Json.skipSpace, Json.isSpace, Json.readColon,
    Json.readSeparator, Json.nextKey, Json.readScalar, Json.readConstant, Json.readWord,
    Json.finish, Json.depthLimit, Json.Value.ofMembers, Json.insertMember, Except.map,
    Except.mapError]

/-- The class of that object. -/
def threeFields : ClassDefinition :=
  ⟨"p.R", Keyed.ofList [("a", .listOf .string), ("A", .boolean), ("b", .objectRef "p.B")]⟩

/-- The schema of that object. -/
def threeMembersSchema : Schema :=
  ⟨.objectRef "p.R", Keyed.ofList [⟨"p.B", Keyed.empty⟩, threeFields]⟩

theorem generate_threeMembers :
    generate .standard "p.R" threeMembers .json = .ok threeMembersSchema := by
  rw [generate, Document.read, read_threeMembers]
  rfl

/-- The files of that schema, written out. -/
def threeMembersFiles : List SourceFile :=
  [⟨"p/B.java", "package p;\n\npublic class B \x7b\n\n\x7d\n"⟩,
    ⟨"p/R.java",
      "package p;\n\nimport java.util.List;\n\npublic class R \x7b\n\n" ++
      "    private List<String> a;\n    private boolean A;\n    private B b;\n\n" ++
      "    public List<String> getA() \x7b\n        return a;\n    \x7d\n\n" ++
      "    public void setA(List<String> a) \x7b\n        this.a = a;\n    \x7d\n\n" ++
      "    public boolean isA() \x7b\n        return A;\n    \x7d\n\n" ++
      "    public void setA(boolean A) \x7b\n        this.A = A;\n    \x7d\n\n" ++
      "    public B getB() \x7b\n        return b;\n    \x7d\n\n" ++
      "    public void setB(B b) \x7b\n        this.b = b;\n    \x7d\n\n\x7d\n"⟩]

theorem generate_emits_threeMembers :
    generate .standard "p.R" threeMembers .json = .ok threeMembersSchema ∧
      SourceFile.ofRegistry threeMembersSchema.registry = .ok threeMembersFiles := by
  have hfiles : threeMembersSchema.registry.toList.map SourceFile.ofClass = threeMembersFiles := by
    decide +kernel
  refine ⟨generate_threeMembers, ?_⟩
  rw [generate_emits generate_threeMembers, hfiles]

/-! ## An object in an object -/

/-- An object with an empty object in it. -/
def ownedObject : String := "\x7b\"owner\":\x7b\x7d\x7d"

theorem read_ownedObject : readJson ownedObject = .ok (.object [("owner", .object [])]) := by
  have hread : Json.read ownedObject = .ok (.object [("owner", .object [])]) :=
    Json.read_emptyMember rfl (by simp)
  rw [readJson, hread]
  rfl

/-- The schema of that object. -/
def ownedSchema : Schema :=
  ⟨.objectRef "p.R", Keyed.ofList
    [⟨"p.Owner", Keyed.empty⟩, ⟨"p.R", Keyed.ofList [("owner", .objectRef "p.Owner")]⟩]⟩

theorem infer_ownedObject :
    infer .standard "p.R" (.ofJson (.object [("owner", .object [])])) = .ok ownedSchema := by
  rfl

theorem generate_ownedObject : generate .standard "p.R" ownedObject .json = .ok ownedSchema := by
  rw [generate, Document.read, read_ownedObject]
  exact infer_ownedObject

theorem ofRegistry_ownedSchema :
    SourceFile.ofRegistry ownedSchema.registry
      = .ok (ownedSchema.registry.toList.map SourceFile.ofClass) := by
  refine SourceFile.ofRegistry_of_hasNamedFields ?_
  show ∀ c ∈ ownedSchema.registry.toList, ∀ field ∈ c.fields.toList, field.1 ≠ ""
  decide

end Specimen.Java
