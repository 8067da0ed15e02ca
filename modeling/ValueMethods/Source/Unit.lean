import ValueMethods.ClassModel.Ancestry
import ValueMethods.Source.Reindent

/-!
# Compilation units

The source text of a class: package, imports, the head of the class, its fields, the methods it was
declared with and the generated ones.
-/

namespace ValueMethods

/-! ## Imports -/

/-- Inserts a text into an ascending list without repeats. -/
def insertSorted (text : String) : List String → List String
  | [] => [text]
  | first :: rest =>
      if text = first then first :: rest
      else if text < first then text :: first :: rest
      else first :: insertSorted text rest

/-- The texts in ascending order, each once. -/
def sortedTexts (texts : List String) : List String :=
  texts.foldr insertSorted []

namespace ClassDecl

/-- Whether a type that the class uses has to be imported: it is in a package that is neither
`java.lang` nor the package of the class. -/
def importsType (decl : ClassDecl) (type : TypeName) : Bool :=
  type.needsImport && type.package != decl.package

/-- The qualified names of the types to import, in ascending order. -/
def imports (decl : ClassDecl) : List String :=
  sortedTexts (((decl.generated.flatMap Method.types).filter decl.importsType).map
    TypeName.qualified)

/-! ## Parts of a unit -/

/-- The line of the package, with a blank line before it. -/
def packageText (decl : ClassDecl) : String :=
  match decl.package with
  | some package => if package.isEmpty then "" else "\npackage " ++ package ++ ";\n"
  | none => ""

/-- The import lines, with a blank line before them. -/
def importText (decl : ClassDecl) : String :=
  if decl.imports.isEmpty then
    ""
  else
    "\n" ++ Text.concat (decl.imports.map fun name => "import " ++ name ++ ";\n")

/-- The line that declares a field.  Instance fields can be read by subclasses, static ones by
everyone. -/
def fieldText (field : Field) : String :=
  indentUnit ++ (if field.isStatic then "public static" else "protected") ++ " " ++ field.type ++
    " " ++ field.name ++ ";\n"

/-- The lines of the fields, with a blank line before them. -/
def fieldsText (decl : ClassDecl) : String :=
  if decl.fields.isEmpty then "" else "\n" ++ Text.concat (decl.fields.map fieldText)

/-- A declared method: its source, or a remark if the source is not known. -/
def declaredText (decl : ClassDecl) (signature : Signature) : String :=
  "\n" ++
    match decl.methodSource? signature with
    | some source => Source.reindent 1 source
    | none =>
        indentUnit ++ "// " ++ signature.text ++
          " is declared upstream; its source is not in the model\n"

end ClassDecl

namespace ClassModel

/-- The name by which a class writes its superclass.  A class of the same package is written by
its simple name. -/
def superclassText (model : ClassModel) (decl : ClassDecl) : Option String :=
  match decl.superclass with
  | some (.inModel parent) =>
      (model.class? parent).map fun above =>
        if above.package = decl.package then above.name else above.qualifiedName
  | some (.external name) => some name
  | none => none

/-- The line that opens a class. -/
def headText (model : ClassModel) (decl : ClassDecl) : String :=
  (if decl.isAbstract then "public abstract" else "public") ++ " class " ++ decl.name ++
    (match model.superclassText decl with
      | some name => " extends " ++ name
      | none => "") ++
    " \x7b\n"

/-- The compilation unit of a class. -/
def unitOf (model : ClassModel) (decl : ClassDecl) : String :=
  "// Generated by valuegen. Do not edit manually.\n" ++ decl.packageText ++ decl.importText ++
    "\n" ++ model.headText decl ++ decl.fieldsText ++
    Text.concat (decl.declaredMethods.map decl.declaredText) ++
    Text.concat (decl.generated.map fun method => "\n" ++ method.text 1) ++ "\x7d\n"

/-- The compilation unit of the class with the given handle. -/
def unit (model : ClassModel) (id : ClassId) : String :=
  (model.class? id).elim "" model.unitOf

/-- The generated methods of a class with blank lines between them. -/
def generatedText (model : ClassModel) (id : ClassId) (depth : Nat) : String :=
  (model.class? id).elim "" fun decl =>
    Text.joinWith "\n" (decl.generated.map fun method => method.text depth)

end ClassModel

end ValueMethods
