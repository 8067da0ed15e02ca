import ValueMethods.Files.Tree
import ValueMethods.Source.Unit

/-!
# Emitting compilation units

Each class has its own file below the output directory.  A file that already holds the text of the
unit is left alone.  A model with a declared method whose source is not known is refused before
anything is written, since its file would lose that method.
-/

namespace ValueMethods

namespace ClassDecl

/-- The path of the unit of the class: its package as directories, and a file with its name. -/
def unitPath (decl : ClassDecl) : String :=
  let directories :=
    match decl.package with
    | some package => (Text.pieces '.' package).filter fun part => !part.isEmpty
    | none => []
  Path.join (Path.joinAll "" directories) (decl.name ++ ".java")

end ClassDecl

/-- What emitting does to a file. -/
inductive EmissionStatus where
  /-- There was no file. -/
  | created
  /-- There was a file with another content. -/
  | updated
  /-- There was a file with the content already. -/
  | unchanged
  deriving DecidableEq

/-- The status in data output. -/
def EmissionStatus.key : EmissionStatus → String
  | .created => "created"
  | .updated => "updated"
  | .unchanged => "unchanged"

/-- The file of one class. -/
structure EmittedFile where
  /-- Qualified name of the class. -/
  owner : String
  /-- Path of the file. -/
  path : String
  /-- What was done to the file. -/
  status : EmissionStatus
  deriving DecidableEq

/-- Whether the file was written. -/
def EmittedFile.isChanged (file : EmittedFile) : Bool :=
  file.status != .unchanged

/-- Why units cannot be emitted. -/
inductive EmissionError where
  /-- A class has declared methods without source. -/
  | missingSource (owner : String) (methods : List Signature)
  /-- What is at the path of a unit cannot be read. -/
  | read (path : String) (cause : FileError)
  /-- A directory cannot be made. -/
  | makeDirectory (path : String) (cause : FileError)
  /-- A file cannot be written. -/
  | write (path : String) (cause : FileError)
  deriving DecidableEq

namespace EmissionError

/-- The text shown for the error. -/
def message : EmissionError → String
  | .missingSource owner methods =>
      "class '" ++ owner ++ "' declares " ++ Text.joinWith ", " (methods.map Signature.text) ++
        " without source; add `source` to these methods in the model"
  | .read path _ => "failed to read existing " ++ path
  | .makeDirectory path _ => "failed to create directory " ++ path
  | .write path _ => "failed to write " ++ path

/-- What the file system said, if it was asked. -/
def cause? : EmissionError → Option FileError
  | .missingSource _ _ => none
  | .read _ cause => some cause
  | .makeDirectory _ cause => some cause
  | .write _ cause => some cause

/-- The text of the error with its reason. -/
def fullMessage (error : EmissionError) : String :=
  FileError.explain error.message error.cause?

end EmissionError

namespace Emission

/-- The first class with declared methods without source. -/
def missingSource? (classes : List ClassDecl) : Option EmissionError :=
  match classes with
  | [] => none
  | decl :: rest =>
      match decl.methodsWithoutSource with
      | [] => missingSource? rest
      | missing => some (.missingSource decl.qualifiedName missing)

/-- What has to be done so that the file at a path holds a text. -/
def status (tree : FileTree) (path text : String) : Except EmissionError EmissionStatus :=
  match tree.read path with
  | .ok content => .ok (if isTextOf content text then .unchanged else .updated)
  | .error .notFound => .ok .created
  | .error cause => .error (.read path cause)

/-- Writes a text to a path, and makes the directories above it. -/
def place (tree : FileTree) (path text : String) : FileTree × Except EmissionError Unit :=
  match Path.parent? path with
  | none => write tree path text
  | some directory =>
      match tree.makeDirectories directory with
      | (changed, .error cause) => (changed, .error (.makeDirectory directory cause))
      | (changed, .ok ()) => write changed path text
where
  write (tree : FileTree) (path text : String) : FileTree × Except EmissionError Unit :=
    match tree.write path text.toUTF8 with
    | .ok final => (final, .ok ())
    | .error cause => (tree, .error (.write path cause))

/-- Emits one unit.  A dry run only says what would be done. -/
def emitText (dryRun : Bool) (tree : FileTree) (path text : String) :
    FileTree × Except EmissionError EmissionStatus :=
  match status tree path text with
  | .error error => (tree, .error error)
  | .ok .unchanged => (tree, .ok .unchanged)
  | .ok found =>
      if dryRun then
        (tree, .ok found)
      else
        match place tree path text with
        | (changed, .error error) => (changed, .error error)
        | (changed, .ok ()) => (changed, .ok found)

/-- Emits the units of classes in order, up to the first that fails. -/
def emitAll (model : ClassModel) (output : String) (dryRun : Bool) :
    FileTree → List ClassDecl → FileTree × Except EmissionError (List EmittedFile)
  | tree, [] => (tree, .ok [])
  | tree, decl :: rest =>
      let path := Path.join output decl.unitPath
      match emitText dryRun tree path (model.unitOf decl) with
      | (changed, .error error) => (changed, .error error)
      | (changed, .ok status) =>
          match emitAll model output dryRun changed rest with
          | (final, .error error) => (final, .error error)
          | (final, .ok files) => (final, .ok (⟨decl.qualifiedName, path, status⟩ :: files))

end Emission

namespace ClassModel

/-- Emits the units of all classes below a directory, in model order. -/
def emit (model : ClassModel) (output : String) (dryRun : Bool) (tree : FileTree) :
    FileTree × Except EmissionError (List EmittedFile) :=
  match Emission.missingSource? model.classes with
  | some error => (tree, .error error)
  | none => Emission.emitAll model output dryRun tree model.classes

end ClassModel

end ValueMethods
