import Specimen.Proofs.Java.Accessors
import Specimen.Proofs.Java.TypeText

set_option autoImplicit false

/-! # What a source file says

A source file is laid out in lines: the package, the import of lists, the first line of the class,
the declarations of the fields in their order, and then a getter and a setter for each field in the
same order. The three places where the type of a field is written have one text
(`contents_eq_unlines`).

So the package, the class and its fields can be read off a file, as long as no name in it can feign
a line or a word. The only white space that a file has of its own are spaces and line breaks, and
names without these suffice (`contents_determine`). What stands behind the declarations is not
needed: the fields end with an empty line or with the end of the class, and no declaration is
either of these.
-/

namespace Specimen.Java

open Specimen.Inference Specimen.Schema Specimen.Text

/-! ## Lines -/

/-- Lines as a text, with a line break behind each. -/
def unlines (ls : List String) : String := String.join (ls.map (· ++ "\n"))

/-- The lines of a text, the last of which is what stands behind the last line break. -/
def lines (text : String) : List String := (segments '\n' text.toList).map String.ofList

theorem unlines_nil : unlines [] = "" := rfl

theorem unlines_cons (l : String) (ls : List String) :
    unlines (l :: ls) = l ++ "\n" ++ unlines ls := by
  simp [unlines]

theorem unlines_append (ls ms : List String) : unlines (ls ++ ms) = unlines ls ++ unlines ms := by
  simp [unlines]

theorem unlines_flatMap {α : Type} (f : α → List String) (xs : List α) :
    unlines (xs.flatMap f) = String.join (xs.map fun x => unlines (f x)) := by
  induction xs with
  | nil => rfl
  | cons x xs ih => simp [unlines_append, ih]

theorem unlines_map {α : Type} (f : α → String) (xs : List α) :
    unlines (xs.map f) = String.join (xs.map fun x => f x ++ "\n") := by
  rw [unlines, List.map_map]
  rfl

/-- Lines can be read off what stands in front of a text. -/
theorem lines_unlines_append {ls : List String} (h : ∀ l ∈ ls, '\n' ∉ l.toList) (text : String) :
    lines (unlines ls ++ text) = ls ++ lines text := by
  induction ls with
  | nil => simp [unlines_nil]
  | cons l ls ih =>
      rw [List.forall_mem_cons] at h
      have hsplit : (unlines (l :: ls) ++ text).toList
          = l.toList ++ '\n' :: (unlines ls ++ text).toList := by
        simp [unlines_cons]
      have hrest := ih h.2
      unfold lines at hrest ⊢
      rw [hsplit, segments_append_cons, segments_of_not_mem h.1, List.map_append, hrest]
      simp

/-! ## The lines of a file -/

/-- A text at a depth of indentation. -/
def indented (depth : Nat) (text : String) : String :=
  String.join (List.replicate depth indentation) ++ text

/-- The line that declares a package. -/
def packageLine (package : String) : String := indented 0 ("package " ++ package ++ ";")

/-- The lines that declare a package, if it has a name. -/
def packageLines (package : String) : List String :=
  if package = "" then [] else [packageLine package, ""]

/-- The line that imports lists. -/
def importLine : String := indented 0 "import java.util.List;"

/-- The lines that import lists, if a field is one. -/
def importLines (fields : List FieldModel) : List String :=
  if fields.any fun f => f.type.isList then [importLine, ""] else []

/-- The first line of a class. -/
def classLine (simpleName : String) : String :=
  indented 0 ("public class " ++ simpleName ++ " \x7b")

/-- The line that declares a field by its name and by what is written for its type. -/
def declarationLine (field : String × String) : String :=
  indented 1 ("private " ++ field.2 ++ " " ++ field.1 ++ ";")

/-- The lines of a getter, with an empty line in front. -/
def getterLines (getter name written : String) : List String :=
  ["", indented 1 ("public " ++ written ++ " " ++ getter ++ "() \x7b"),
    indented 2 ("return " ++ name ++ ";"), indented 1 "\x7d"]

/-- The lines of a setter, with an empty line in front. -/
def setterLines (setter name written : String) : List String :=
  ["", indented 1 ("public void " ++ setter ++ "(" ++ written ++ " " ++ name ++ ") \x7b"),
    indented 2 ("this." ++ name ++ " = " ++ name ++ ";"), indented 1 "\x7d"]

namespace ClassModel

variable (m : ClassModel)

/-- What is written for the type of a field. -/
def written (f : FieldModel) : String := typeText m.package f.type

/-- The names of a class's fields and what is written for their types. -/
def declared : List (String × String) := m.fields.map fun f => (f.name, m.written f)

/-- The lines that declare the fields, with an empty line in front if there are any. -/
def declarationLines : List String :=
  if m.fields = [] then [] else "" :: m.declared.map declarationLine

/-- The lines of a getter and a setter for each field. -/
def accessorLines : List String :=
  m.fields.flatMap fun f =>
    getterLines f.getter f.name (m.written f) ++ setterLines f.setter f.name (m.written f)

/-- The lines in front of the accessors. -/
def leadingLines : List String :=
  packageLines m.package ++ importLines m.fields ++ [classLine m.simpleName] ++ m.declarationLines

/-- The lines of the file of a class. -/
def fileLines : List String :=
  m.leadingLines ++ m.accessorLines ++ ["", indented 0 "\x7d"]

end ClassModel

theorem line_eq (depth : Nat) (text : String) : line depth text = indented depth text ++ "\n" := rfl

theorem blankLine_eq : blankLine = "" ++ "\n" := rfl

theorem packageText_eq (package : String) :
    packageText package = unlines (packageLines package) := by
  unfold packageText packageLines
  by_cases h : package = ""
  · simp [h, unlines_nil]
  · simp [h, unlines_cons, unlines_nil, packageLine, line_eq, blankLine_eq]

theorem importText_eq (fields : List FieldModel) :
    importText fields = unlines (importLines fields) := by
  unfold importText importLines
  split_ifs
  · simp [unlines_cons, unlines_nil, importLine, line_eq, blankLine_eq]
  · rfl

theorem declarationsText_eq (m : ClassModel) :
    declarationsText m.package m.fields = unlines m.declarationLines := by
  unfold declarationsText ClassModel.declarationLines
  by_cases h : m.fields = []
  · simp [h, unlines_nil]
  · have hlines : (m.fields.map (declarationText m.package))
        = m.declared.map fun field => declarationLine field ++ "\n" := by
      rw [ClassModel.declared, List.map_map]
      rfl
    simp [h, unlines_cons, unlines_map, hlines, blankLine_eq]

/-- A field is written alike wherever it is: the types of its accessors are its own, and the
parameter is called like it. -/
structure FieldModel.IsUniform (f : FieldModel) : Prop where
  returns_eq : f.returns = f.type
  parameterType_eq : f.parameterType = f.type
  parameter_eq : f.parameter = f.name

theorem accessorsText_eq (m : ClassModel) {f : FieldModel} (hf : f.IsUniform) :
    accessorsText m.package f = unlines (getterLines f.getter f.name (m.written f) ++
      setterLines f.setter f.name (m.written f)) := by
  rw [accessorsText, getterText, setterText, hf.returns_eq, hf.parameterType_eq, hf.parameter_eq]
  simp only [unlines_append, getterLines, setterLines, ClassModel.written, unlines_cons,
    unlines_nil, line_eq, blankLine_eq, String.append_assoc, String.append_empty]

/-- **A source file consists of lines** for the package, the import, the class, its fields and
their accessors, in this order. -/
theorem contents_eq_unlines {m : ClassModel} (h : ∀ f ∈ m.fields, f.IsUniform) :
    (SourceFile.ofModel m).contents = unlines m.fileLines := by
  have haccessors : String.join (m.fields.map (accessorsText m.package))
      = unlines m.accessorLines := by
    rw [ClassModel.accessorLines, unlines_flatMap]
    exact congrArg String.join (List.map_congr_left fun f hf => accessorsText_eq m (h f hf))
  have hclass : line 0 ("public class " ++ m.simpleName ++ " \x7b")
      = unlines [classLine m.simpleName] := by
    simp [unlines_cons, unlines_nil, line_eq, classLine]
  have hend : blankLine ++ line 0 "\x7d" = unlines ["", indented 0 "\x7d"] := by
    simp [unlines_cons, unlines_nil, line_eq, blankLine_eq]
  rw [SourceFile.ofModel, classText, packageText_eq, importText_eq, hclass, declarationsText_eq,
    haccessors]
  simp only [ClassModel.fileLines, ClassModel.leadingLines, unlines_append, ← hend,
    String.append_assoc]

/-! ## Names that feign nothing -/

/-- A name has neither a space nor a line break, as all names without white space. -/
def IsUnbroken (name : String) : Prop := ' ' ∉ name.toList ∧ '\n' ∉ name.toList

instance (name : String) : Decidable (IsUnbroken name) := inferInstanceAs (Decidable (_ ∧ _))

/-- The names in a class: its package, its simple name, and the names of its fields and of the
classes that these refer to. -/
structure ClassModel.IsUnbroken (m : ClassModel) : Prop where
  package : Java.IsUnbroken m.package
  simpleName : Java.IsUnbroken m.simpleName
  name : ∀ f ∈ m.fields, Java.IsUnbroken f.name
  reference : ∀ f ∈ m.fields, ∀ n, f.type.reference? = some n → Java.IsUnbroken n

/-- A class is written by its name or by what stands behind the last point of it. -/
theorem isUnbroken_typeText_objectRef (package : String) {name : String} (h : IsUnbroken name) :
    IsUnbroken (typeText package (.objectRef name)) := by
  have hsimple : IsUnbroken (splitQualified name).2 := by
    rcases splitQualified_cases name with ⟨hname, _⟩ | ⟨hsplit, _⟩
    · unfold IsUnbroken at h ⊢
      rw [hname] at h
      simp only [List.mem_append, List.mem_cons, not_or] at h
      exact ⟨h.1.2.2, h.2.2.2⟩
    · rwa [hsplit]
  show IsUnbroken (if (splitQualified name).1 = package then (splitQualified name).2 else name)
  split_ifs
  · exact hsimple
  · exact h

theorem isUnbroken_inLists {written : String} (h : IsUnbroken written) (depth : Nat) :
    IsUnbroken (inLists depth written) := by
  induction depth with
  | zero => exact h
  | succ depth ih =>
      unfold IsUnbroken at ih ⊢
      simpa [inLists] using ih

theorem isUnbroken_argumentText (package : String) {t : FieldType}
    (h : ∀ n, t.reference? = some n → IsUnbroken n) : IsUnbroken (argumentText package t) := by
  induction t with
  | listOf item ih => exact isUnbroken_inLists (ih h) 1
  | objectRef name => exact isUnbroken_typeText_objectRef package (h name rfl)
  | _ => simp [IsUnbroken, argumentText]

/-- Types have no white space of their own. -/
theorem isUnbroken_typeText (package : String) {t : FieldType}
    (h : ∀ n, t.reference? = some n → IsUnbroken n) : IsUnbroken (typeText package t) := by
  cases t with
  | listOf item =>
      have hitem : ∀ n, item.reference? = some n → IsUnbroken n := h
      exact isUnbroken_inLists (isUnbroken_argumentText package hitem) 1
  | objectRef name => exact isUnbroken_typeText_objectRef package (h name rfl)
  | _ => simp [IsUnbroken, typeText]

theorem ClassModel.IsUnbroken.declared {m : ClassModel} (h : m.IsUnbroken) :
    ∀ field ∈ m.declared, Java.IsUnbroken field.1 ∧ Java.IsUnbroken field.2 := by
  intro field hfield
  obtain ⟨f, hf, rfl⟩ := List.mem_map.mp hfield
  exact ⟨h.name f hf, isUnbroken_typeText m.package (h.reference f hf)⟩

/-! ## Reading a file -/

/-- The space between them separates what is written for a type from the name. -/
theorem declarationLine_inj {field field' : String × String} (hname : IsUnbroken field.1)
    (hwritten : IsUnbroken field.2) (h : declarationLine field = declarationLine field') :
    field = field' := by
  have hlists : field.2.toList ++ ' ' :: (field.1.toList ++ [';'])
      = field'.2.toList ++ ' ' :: (field'.1.toList ++ [';']) := by
    have hlines := congrArg String.toList h
    simpa [declarationLine, indented, indentation] using hlines
  have hspace : ' ' ∉ field.1.toList ++ [';'] := by
    simpa using hname.1
  obtain ⟨htype, _, hnames⟩ := (List.append_cons_inj_of_notMem hwritten.1 hspace).mp hlists
  refine Prod.ext (String.ext (List.append_cancel_right hnames)) (String.ext htype)

/-- A list of different lines in front of a line that is none of them can be read off. -/
theorem map_append_cons_inj {α : Type} {f : α → String} {xs ys : List α} {stop stop' : String}
    {more more' : List String} (hf : ∀ x ∈ xs, ∀ y, f x = f y → x = y)
    (hstop : ∀ x, f x ≠ stop ∧ f x ≠ stop')
    (h : xs.map f ++ stop :: more = ys.map f ++ stop' :: more') : xs = ys := by
  induction xs generalizing ys with
  | nil =>
      -- a list that ends early has its stop where the other one has a line
      cases ys with
      | nil => rfl
      | cons y ys => exact absurd (List.cons.inj h).1.symm (hstop y).1
  | cons x xs ih =>
      rw [List.forall_mem_cons] at hf
      cases ys with
      | nil => exact absurd (List.cons.inj h).1 (hstop x).2
      | cons y ys =>
          obtain ⟨hfirst, hothers⟩ := List.cons.inj h
          rw [hf.1 y hfirst, ih hf.2 hothers]

/-- No name breaks one of the lines in front of the accessors. -/
theorem break_not_mem_leadingLines {m : ClassModel} (h : m.IsUnbroken) :
    ∀ l ∈ m.leadingLines, '\n' ∉ l.toList := by
  have hpackage : ∀ l ∈ packageLines m.package, '\n' ∉ l.toList := by
    unfold packageLines
    split_ifs
    · simp
    · simpa [packageLine, indented] using h.package.2
  have himport : ∀ l ∈ importLines m.fields, '\n' ∉ l.toList := by
    unfold importLines
    split_ifs
    · simp [importLine, indented]
    · simp
  have hclass : '\n' ∉ (classLine m.simpleName).toList := by
    simpa [classLine, indented] using h.simpleName.2
  have hdeclarations : ∀ l ∈ m.declarationLines, '\n' ∉ l.toList := by
    unfold ClassModel.declarationLines
    split_ifs
    · simp
    · rw [List.forall_mem_cons]
      refine ⟨by simp, fun l hl => ?_⟩
      obtain ⟨field, hfield, rfl⟩ := List.mem_map.mp hl
      obtain ⟨hname, hwritten⟩ := h.declared field hfield
      simp [declarationLine, indented, indentation, hname.2, hwritten.2]
  simp only [ClassModel.leadingLines, List.mem_append, List.mem_singleton]
  rintro l (((hl | hl) | rfl) | hl)
  · exact hpackage l hl
  · exact himport l hl
  · exact hclass
  · exact hdeclarations l hl

/-- The lines of a file up to the first one behind the declarations, which is empty or ends the
class. -/
theorem exists_lines_contents {m : ClassModel} (huniform : ∀ f ∈ m.fields, f.IsUniform)
    (h : m.IsUnbroken) :
    ∃ stop more, (stop = "" ∨ stop = "\x7d") ∧
      lines (SourceFile.ofModel m).contents
        = packageLines m.package ++ (importLines m.fields ++ (classLine m.simpleName :: "" ::
            (m.declared.map declarationLine ++ stop :: more))) := by
  have hlines : lines (SourceFile.ofModel m).contents
      = m.leadingLines ++ lines (unlines (m.accessorLines ++ ["", "\x7d"])) := by
    have hfile : m.fileLines = m.leadingLines ++ (m.accessorLines ++ ["", "\x7d"]) := by
      simp [ClassModel.fileLines, indented]
    rw [contents_eq_unlines huniform, hfile, unlines_append,
      lines_unlines_append (break_not_mem_leadingLines h)]
  rw [hlines, ClassModel.leadingLines, ClassModel.declarationLines]
  cases hfields : m.fields with
  | nil =>
      refine ⟨"\x7d", [""], Or.inr rfl, ?_⟩
      have haccessors : lines (unlines (m.accessorLines ++ ["", "\x7d"])) = ["", "\x7d", ""] := by
        rw [ClassModel.accessorLines, hfields, List.flatMap_nil]
        decide
      simp [haccessors, ClassModel.declared, hfields]
  | cons f fs =>
      -- the getter of the first field has an empty line in front
      obtain ⟨others, hothers⟩ : ∃ others, m.accessorLines ++ ["", "\x7d"] = [""] ++ others := by
        rw [ClassModel.accessorLines, hfields]
        exact ⟨_, rfl⟩
      refine ⟨"", lines (unlines others), Or.inl rfl, ?_⟩
      rw [hothers, unlines_append, lines_unlines_append (by simp)]
      simp

/-- Whether a package is declared is read off the first line. -/
theorem packageLines_append_inj {package package' : String} {ls ls' : List String}
    (hls : ∀ p, ls.head? ≠ some (packageLine p)) (hls' : ∀ p, ls'.head? ≠ some (packageLine p))
    (h : packageLines package ++ ls = packageLines package' ++ ls') :
    package = package' ∧ ls = ls' := by
  unfold packageLines at h
  split_ifs at h with hpackage hpackage' hpackage'
  · exact ⟨hpackage.trans hpackage'.symm, h⟩
  · exact absurd (congrArg List.head? h) (hls package')
  · exact absurd (congrArg List.head? h).symm (hls' package)
  · have hlines : packageLine package = packageLine package' ∧ ls = ls' := by simpa using h
    refine ⟨String.ext ?_, hlines.2⟩
    have hlists := congrArg String.toList hlines.1
    simpa [packageLine, indented] using hlists

/-- The import is told from the class by the first line. -/
theorem importLines_append_inj {fields fields' : List FieldModel} {name name' : String}
    {ls ls' : List String}
    (h : importLines fields ++ classLine name :: ls
      = importLines fields' ++ classLine name' :: ls') :
    name = name' ∧ ls = ls' := by
  have hdifferent : ∀ n, classLine n ≠ importLine := by
    intro n
    simp [← String.toList_inj, classLine, importLine, indented]
  have hlines : classLine name = classLine name' ∧ ls = ls' := by
    unfold importLines at h
    split_ifs at h
    · simpa using h
    · exact absurd (List.cons.inj h).1.symm (hdifferent name')
    · exact absurd (List.cons.inj h).1 (hdifferent name)
    · simpa using h
  refine ⟨String.ext ?_, hlines.2⟩
  have hlists := congrArg String.toList hlines.1
  simpa [classLine, indented] using hlists

theorem head?_importLines_append (fields : List FieldModel) (name : String) (ls : List String)
    (package : String) :
    (importLines fields ++ classLine name :: ls).head? ≠ some (packageLine package) := by
  unfold importLines
  split_ifs
  · simp [← String.toList_inj, importLine, packageLine, indented]
  · simp [← String.toList_inj, classLine, packageLine, indented]

/-- **Models whose files have the same contents agree** on what these files declare. -/
theorem eq_of_contents_eq {m m' : ClassModel} (huniform : ∀ f ∈ m.fields, f.IsUniform)
    (huniform' : ∀ f ∈ m'.fields, f.IsUniform) (hm : m.IsUnbroken) (hm' : m'.IsUnbroken)
    (h : (SourceFile.ofModel m).contents = (SourceFile.ofModel m').contents) :
    m.package = m'.package ∧ m.simpleName = m'.simpleName ∧ m.declared = m'.declared := by
  obtain ⟨stop, more, hstop, hlines⟩ := exists_lines_contents huniform hm
  obtain ⟨stop', more', hstop', hlines'⟩ := exists_lines_contents huniform' hm'
  have hcontents := congrArg lines h
  rw [hlines, hlines'] at hcontents
  -- the package and the class stand in front; the fields go on up to the first line that is no
  -- declaration
  obtain ⟨hpackage, hbehind⟩ := packageLines_append_inj (head?_importLines_append _ _ _)
    (head?_importLines_append _ _ _) hcontents
  obtain ⟨hname, hclass⟩ := importLines_append_inj hbehind
  refine ⟨hpackage, hname, map_append_cons_inj ?_ ?_ (List.cons.inj hclass).2⟩
  · intro field hfield field' hfields
    obtain ⟨hfieldName, hwritten⟩ := hm.declared field hfield
    exact declarationLine_inj hfieldName hwritten hfields
  · have hdifferent : ∀ field l, l = "" ∨ l = "\x7d" → declarationLine field ≠ l := by
      rintro field l (rfl | rfl) <;>
        simp [← String.toList_inj, declarationLine, indented, indentation]
    exact fun field => ⟨hdifferent field stop hstop, hdifferent field stop' hstop'⟩

/-! ## The file of a class -/

theorem isUniform_named (c : ClassDefinition) : ∀ f ∈ (ClassModel.named c).fields, f.IsUniform := by
  intro f hf
  obtain ⟨field, _, rfl⟩ := List.mem_map.mp hf
  exact ⟨rfl, rfl, rfl⟩

/-- **The source file of a class says what is in it.** Its lines declare the package, the class and
its fields in their order, and then define a getter and a setter for each field in the same order,
always with the same text for the type. Two classes with files of the same contents lie in the same
package, are called alike, and declare fields of the same names with types that are written alike,
if no name in them has a space or a line break. -/
theorem contents_determine {c : ClassDefinition} {m : ClassModel}
    (h : ClassModel.ofClass c = .ok m) :
    (m.package, m.simpleName) = splitQualified c.qualifiedName ∧
      m.declared = c.fields.toList.map (fun field => (field.1, typeText m.package field.2)) ∧
      (SourceFile.ofModel m).contents = unlines m.fileLines ∧
      (∀ f ∈ m.fields, typeText m.package f.returns = typeText m.package f.type ∧
        typeText m.package f.parameterType = typeText m.package f.type) ∧
      ∀ (c' : ClassDefinition) (m' : ClassModel), ClassModel.ofClass c' = .ok m' →
        m.IsUnbroken → m'.IsUnbroken →
        (SourceFile.ofModel m).contents = (SourceFile.ofModel m').contents →
        m.package = m'.package ∧ m.simpleName = m'.simpleName ∧ m.declared = m'.declared := by
  obtain ⟨_, rfl⟩ := ClassModel.ofClass_eq_ok_iff.mp h
  have huniform := isUniform_named c
  refine ⟨rfl, ?_, contents_eq_unlines huniform, ?_, ?_⟩
  · simp only [ClassModel.declared, ClassModel.named, List.map_map]
    rfl
  · intro f hf
    rw [(huniform f hf).returns_eq, (huniform f hf).parameterType_eq]
    exact ⟨rfl, rfl⟩
  · intro c' m' h' hm hm' hcontents
    obtain ⟨_, rfl⟩ := ClassModel.ofClass_eq_ok_iff.mp h'
    exact eq_of_contents_eq huniform (isUniform_named c') hm hm' hcontents

/-- A class with a field that never held anything. -/
def blankField : ClassDefinition := ⟨"p.R", Keyed.ofList [("a", .null)]⟩

/-- A class with a field of another class, which is called like the class of all objects. -/
def objectField : ClassDefinition := ⟨"p.R", Keyed.ofList [("a", .objectRef "p.Object")]⟩

theorem isUnbroken_blankField : (ClassModel.named blankField).IsUnbroken where
  package := by decide
  simpleName := by decide
  name := by decide
  reference := by
    intro f hf n hn
    obtain rfl : f = FieldModel.named ("a", .null) := List.mem_singleton.mp hf
    cases hn

theorem isUnbroken_objectField : (ClassModel.named objectField).IsUnbroken where
  package := by decide
  simpleName := by decide
  name := by decide
  reference := by
    intro f hf n hn
    obtain rfl : f = FieldModel.named ("a", .objectRef "p.Object") := List.mem_singleton.mp hf
    obtain rfl : n = "p.Object" := (Option.some.inj hn).symm
    decide

/-- Different types that are written alike are told apart by no file. -/
theorem contents_determine_object :
    ∃ m m', ClassModel.ofClass blankField = .ok m ∧ ClassModel.ofClass objectField = .ok m' ∧
      m.IsUnbroken ∧ m'.IsUnbroken ∧ m ≠ m' ∧
      (SourceFile.ofModel m).contents = (SourceFile.ofModel m').contents ∧
      m.declared = [("a", "Object")] ∧ m.declared = m'.declared := by
  have h : ClassModel.ofClass blankField = .ok (ClassModel.named blankField) := rfl
  have h' : ClassModel.ofClass objectField = .ok (ClassModel.named objectField) := rfl
  have hcontents : (SourceFile.ofModel (ClassModel.named blankField)).contents
      = (SourceFile.ofModel (ClassModel.named objectField)).contents := rfl
  obtain ⟨_, hdeclared, _, _, hdetermine⟩ := contents_determine h
  obtain ⟨_, _, hsame⟩ :=
    hdetermine _ _ h' isUnbroken_blankField isUnbroken_objectField hcontents
  exact ⟨_, _, h, h', isUnbroken_blankField, isUnbroken_objectField, by decide, hcontents,
    hdeclared, hsame⟩

end Specimen.Java
