import ValueMethods.CommandLine.Failure
import ValueMethods.Files.Discovery

/-!
# Loading the model of a project

Finding the model documents of a project and loading one model from all of them, as every command
does that works on a model.
-/

namespace ValueMethods

/-- A model with the documents that it was loaded from. -/
structure LoadedModel where
  /-- The model. -/
  model : ClassModel
  /-- Paths of the documents. -/
  documents : List String

namespace Project

/-- The documents of the project, or those at the given places. -/
def documents (project : Project) (tree : FileTree) (given : List String) : List String :=
  (project.documentRoots given).flatMap (Discovery.documents tree)

/-- Tells which documents are loaded. -/
def announce (screen : Screen) (documents : List String) : Screen :=
  documents.foldl (fun screen path => screen.progress ("Loading " ++ path)) screen

/-- Loads the model of the project, or the one at the given places. -/
def loadModel (project : Project) (tree : FileTree) (given : List String) (screen : Screen) :
    Screen × Except CommandError LoadedModel :=
  let documents := project.documents tree given
  if documents.isEmpty then
    (screen, .error (.noDocuments (project.documentRoots given)))
  else
    (announce screen documents,
      match ClassModel.loadFiles tree documents with
      | .error error => .error (.load error)
      | .ok model => .ok ⟨model, documents⟩)

/-- Loads the model of the project that the current directory belongs to, and goes on with it. -/
def withModel (tree : FileTree) (given : List String) (screen : Screen)
    (next : Project → LoadedModel → Screen → CommandResult) : CommandResult :=
  match find tree tree.currentPath with
  | .error error => .failed tree screen (.project error)
  | .ok project =>
      match project.loadModel tree given screen with
      | (printed, .error error) => .failed tree printed error
      | (printed, .ok loaded) => next project loaded printed

end Project

end ValueMethods
