import Specimen.Java.Model
import Specimen.Path

set_option autoImplicit false

/-! # Java source files

A class model as a Java source file, which lies in the directories of its package: the private
fields in order, then a getter and a setter for each field. Names are written as they are.
-/

namespace Specimen.Java

open Specimen.Inference Specimen.Schema Specimen.Text

/-! ## Types -/

mutual

/-- A type as it is written in a class of a package: classes of the same package by their simple
names. -/
def typeText (package : String) : FieldType → String
  | .null => "Object"
  | .boolean => "boolean"
  | .integer => "int"
  | .long => "long"
  | .double => "double"
  | .string => "String"
  | .boxedInteger => "Integer"
  | .boxedLong => "Long"
  | .boxedDouble => "Double"
  | .listOf item => "List<" ++ argumentText package item ++ ">"
  | .objectRef name =>
    let (itsPackage, simpleName) := splitQualified name
    if itsPackage = package then simpleName else name

/-- A type as it is written for the elements of a list, which have to be references. -/
def argumentText (package : String) : FieldType → String
  | .boolean => "Boolean"
  | .integer => "Integer"
  | .long => "Long"
  | .double => "Double"
  | .null => "Object"
  | .string => "String"
  | .boxedInteger => "Integer"
  | .boxedLong => "Long"
  | .boxedDouble => "Double"
  | .listOf item => "List<" ++ argumentText package item ++ ">"
  | .objectRef name =>
    let (itsPackage, simpleName) := splitQualified name
    if itsPackage = package then simpleName else name

end

/-! ## Classes -/

/-- One level of indentation. -/
def indentation : String := "    "

/-- A line at a depth of indentation. -/
def line (depth : Nat) (text : String) : String :=
  String.join (List.replicate depth indentation) ++ text ++ "\n"

/-- An empty line. -/
def blankLine : String := "\n"

/-- The package of a file; the package without a name is not declared. -/
def packageText (package : String) : String :=
  if package.isEmpty then "" else line 0 ("package " ++ package ++ ";") ++ blankLine

/-- The import of lists, if a field is one. -/
def importText (fields : List FieldModel) : String :=
  if fields.any fun f => f.type.isList then line 0 "import java.util.List;" ++ blankLine else ""

/-- The declaration of a field. -/
def declarationText (package : String) (f : FieldModel) : String :=
  line 1 ("private " ++ typeText package f.type ++ " " ++ f.name ++ ";")

/-- The declarations of the fields. -/
def declarationsText (package : String) (fields : List FieldModel) : String :=
  if fields.isEmpty then ""
  else blankLine ++ String.join (fields.map (declarationText package))

/-- The getter of a field. -/
def getterText (package : String) (f : FieldModel) : String :=
  blankLine ++
    line 1 ("public " ++ typeText package f.returns ++ " " ++ f.getter ++ "() \x7b") ++
    line 2 ("return " ++ f.name ++ ";") ++ line 1 "\x7d"

/-- The setter of a field. -/
def setterText (package : String) (f : FieldModel) : String :=
  blankLine ++
    line 1 ("public void " ++ f.setter ++ "(" ++ typeText package f.parameterType ++ " " ++
      f.parameter ++ ") \x7b") ++
    line 2 ("this." ++ f.name ++ " = " ++ f.parameter ++ ";") ++ line 1 "\x7d"

/-- The accessors of a field. -/
def accessorsText (package : String) (f : FieldModel) : String :=
  getterText package f ++ setterText package f

/-- A class in a file of a package. -/
def classText (package : String) (m : ClassModel) : String :=
  packageText package ++ importText m.fields ++
    line 0 ("public class " ++ m.simpleName ++ " \x7b") ++
    declarationsText package m.fields ++
    String.join (m.fields.map (accessorsText package)) ++ blankLine ++ line 0 "\x7d"

/-! ## Files -/

/-- A file by its path. -/
structure SourceFile where
  /-- The path below the directory of all sources. -/
  path : String
  /-- The text. -/
  contents : String
  deriving DecidableEq

/-- The directories of a package. -/
def packagePath (package : String) : List Char :=
  ((segments '.' package.toList).filter fun part => !part.isEmpty).foldl Path.join []

/-- The path of the file of a class. -/
def sourcePath (package simpleName : String) : String :=
  String.ofList (Path.join (packagePath package) (simpleName ++ ".java").toList)

/-- The file of a class. -/
def SourceFile.ofModel (m : ClassModel) : SourceFile :=
  ⟨sourcePath m.package m.simpleName, classText m.package m⟩

/-- The files of a registry's classes. -/
def SourceFile.ofRegistry (r : Registry) : Except Failure (List SourceFile) :=
  (ClassModel.ofRegistry r).map (List.map SourceFile.ofModel)

end Specimen.Java
