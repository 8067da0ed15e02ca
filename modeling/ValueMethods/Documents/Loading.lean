import ValueMethods.ClassModel.Ancestry
import ValueMethods.Documents.Decoding
import ValueMethods.Files.Tree

/-!
# From documents to a model

Classes are added in the order of the document, and superclasses are resolved when all classes are
known, so a class may come before the one that it extends.  A superclass that no class of the model
answers to lies outside of it.
-/

namespace ValueMethods

namespace ClassEntry

/-- The class that an entry describes, without its superclass. -/
def decl (entry : ClassEntry) (package : Option String) : ClassDecl :=
  let bare : ClassDecl :=
    { name := entry.name
      package := entry.package.or package
      isAbstract := entry.isAbstract
      fields := entry.fields.map fun field => ⟨field.name, field.type, field.isStatic⟩
      superclass := none
      methods := []
      generated := [] }
  entry.methods.foldl
    (fun decl method =>
      decl.declareMethod (Signature.of method.name method.parameters) method.source)
    bare

end ClassEntry

namespace ClassModel

/-- The class that a name means in the package of another one: a name with a dot is looked up as it
is, any other first as a class of the same package. -/
def resolveName (model : ClassModel) (package : Option String) (name : String) :
    Option ClassId :=
  if name.toList.contains '.' then
    model.find? name
  else
    match model.find? (qualifyName package name) with
    | some id => some id
    | none => model.find? name

/-- The class that a name means for a class of the model. -/
def resolveFrom (model : ClassModel) (child : ClassId) (name : String) : Option ClassId :=
  model.resolveName ((model.class? child).bind ClassDecl.package) name

/-- Adds classes in order; those that name a superclass are remembered with its name. -/
def addEntries (package : Option String) :
    ClassModel → List ClassEntry → Except ModelError (ClassModel × List (ClassId × String))
  | model, [] => .ok (model, [])
  | model, entry :: rest =>
      match model.addClass (entry.decl package) with
      | .error error => .error error
      | .ok extended =>
          match addEntries package extended rest with
          | .error error => .error error
          | .ok (final, pending) =>
              match entry.superclass with
              | some name => .ok (final, (model.size, name) :: pending)
              | none => .ok (final, pending)

/-- Links classes to their superclasses, in order. -/
def linkAll : ClassModel → List (ClassId × String) → Except ModelError ClassModel
  | model, [] => .ok model
  | model, (child, name) :: rest =>
      match model.resolveFrom child name with
      | some parent =>
          match model.extend child parent with
          | .error error => .error error
          | .ok linked => linkAll linked rest
      | none => linkAll (model.extendExternal child name) rest

end ClassModel

/-- The model that a document describes. -/
def Document.model (document : Document) : Except ModelError ClassModel :=
  match ClassModel.empty.addEntries document.package document.classes with
  | .error error => .error error
  | .ok (model, pending) => model.linkAll pending

/-! ## Files -/

/-- Why a model cannot be loaded. -/
inductive LoadError where
  /-- A file cannot be read as text. -/
  | unreadable (path : String) (cause : FileError)
  /-- The extension of a file is not that of a format. -/
  | unknownFormat (path : String)
  /-- A document is not what its format or its content ask for. -/
  | invalid (format : DocumentFormat) (fault : DataFault)
  /-- The documents describe no model. -/
  | model (error : ModelError)
  deriving DecidableEq

namespace LoadError

/-- The text shown for the error. -/
def message : LoadError → String
  | .unreadable path _ => "failed to read model file " ++ path
  | .unknownFormat path =>
      "unsupported model format for " ++ path ++ " (expected .toml or .json)"
  | .invalid format fault =>
      "invalid " ++ format.name ++ " model: " ++ fault.message?.getD "the text is not well formed"
  | .model error => error.message

/-- What the file system said, if it was the reason. -/
def cause? : LoadError → Option FileError
  | .unreadable _ cause => some cause
  | _ => none

/-- The text of the error with its reason. -/
def fullMessage (error : LoadError) : String :=
  FileError.explain error.message error.cause?

end LoadError

/-- Reads the document in a file.  The file is read as text before its extension is looked at. -/
def Document.ofFile (tree : FileTree) (path : String) : Except LoadError Document :=
  match tree.readText path with
  | .error cause => .error (.unreadable path cause)
  | .ok text =>
      match (Path.extension? path).bind DocumentFormat.ofExtension? with
      | none => .error (.unknownFormat path)
      | some format =>
          match Document.read format text with
          | .ok document => .ok document
          | .error fault => .error (.invalid format fault)

/-- Reads the documents in several files, up to the first that fails. -/
def Document.ofFiles (tree : FileTree) : List String → Except LoadError (List Document)
  | [] => .ok []
  | path :: rest =>
      match Document.ofFile tree path with
      | .error error => .error error
      | .ok document => (Document.ofFiles tree rest).map (document :: ·)

/-- The model that one document describes, with the error of loading. -/
def Document.load (document : Document) : Except LoadError ClassModel :=
  match document.model with
  | .ok model => .ok model
  | .error error => .error (.model error)

/-- Loads a model from one file. -/
def ClassModel.loadFile (tree : FileTree) (path : String) : Except LoadError ClassModel :=
  match Document.ofFile tree path with
  | .error error => .error error
  | .ok document => document.load

/-- Loads one model from several files, so that a class can extend a class of another file. -/
def ClassModel.loadFiles (tree : FileTree) (paths : List String) : Except LoadError ClassModel :=
  match Document.ofFiles tree paths with
  | .error error => .error error
  | .ok documents => (Document.merge documents).load

end ValueMethods
