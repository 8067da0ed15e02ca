import ValueMethods.Data.Tree

/-!
# Model documents

What a model document says: classes with their fields and methods, and a package for the classes
that name none.  A document is written as a data tree in which what has its usual value is left
out.
-/

namespace ValueMethods

/-- A field as a document names it. -/
structure FieldEntry where
  /-- Name of the field. -/
  name : String
  /-- Text of the type. -/
  type : String
  /-- Whether the field is static. -/
  isStatic : Bool
  deriving DecidableEq

/-- A method that a class has already. -/
structure MethodEntry where
  /-- Name of the method. -/
  name : String
  /-- Texts of the parameter types. -/
  parameters : List String
  /-- Source of the method, if the document gives it. -/
  source : Option String
  deriving DecidableEq

/-- A class as a document describes it. -/
structure ClassEntry where
  /-- Simple name. -/
  name : String
  /-- Package, if the class names one. -/
  package : Option String
  /-- Name of the superclass, if there is one. -/
  superclass : Option String
  /-- Whether the class is abstract. -/
  isAbstract : Bool
  /-- The fields, in order. -/
  fields : List FieldEntry
  /-- The methods that the class has already. -/
  methods : List MethodEntry
  deriving DecidableEq

/-- A model document. -/
structure Document where
  /-- Package of the classes that name none. -/
  package : Option String
  /-- The classes, in order. -/
  classes : List ClassEntry
  deriving DecidableEq

/-- The type of a field whose type is not given. -/
def FieldEntry.usualType : String := "Object"

/-! ## As data trees -/

/-- A field as a data tree. -/
def FieldEntry.tree (field : FieldEntry) : DataTree :=
  .map ([("name", .text field.name), ("type", .text field.type)] ++
    DataTree.optionalFlag "static" field.isStatic)

/-- A method as a data tree. -/
def MethodEntry.tree (method : MethodEntry) : DataTree :=
  .map ([("name", .text method.name)] ++
    DataTree.optionalList "params" (method.parameters.map .text) ++
    DataTree.optionalText "source" method.source)

/-- A class as a data tree. -/
def ClassEntry.tree (entry : ClassEntry) : DataTree :=
  .map ([("name", .text entry.name)] ++ DataTree.optionalText "package" entry.package ++
    DataTree.optionalText "extends" entry.superclass ++
    DataTree.optionalFlag "abstract" entry.isAbstract ++
    [("fields", .list (entry.fields.map FieldEntry.tree))] ++
    DataTree.optionalList "methods" (entry.methods.map MethodEntry.tree))

/-- A document as a data tree. -/
def Document.tree (document : Document) : DataTree :=
  .map (DataTree.optionalText "package" document.package ++
    [("classes", .list (document.classes.map ClassEntry.tree))])

/-! ## Merging -/

/-- The class with a package, unless it names one itself. -/
def ClassEntry.withPackage (entry : ClassEntry) (package : Option String) : ClassEntry :=
  { entry with package := entry.package.or package }

/-- The classes of a document, each with the package that applies to it. -/
def Document.settledClasses (document : Document) : List ClassEntry :=
  document.classes.map fun entry => entry.withPackage document.package

/-- One document with the classes of several, each with its own document's package. -/
def Document.merge (documents : List Document) : Document where
  package := none
  classes := documents.flatMap Document.settledClasses

end ValueMethods
