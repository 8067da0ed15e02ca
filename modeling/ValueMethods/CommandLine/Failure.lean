import ValueMethods.Documents.Loading
import ValueMethods.Project.Basic
import ValueMethods.Source.Emission
import ValueMethods.Synthesis.Switches
import ValueMethods.Terminal.Screen

/-!
# Failures of commands

Why a command fails, and what a command leaves behind: files, what it printed, and its failure if
there was one.  What was done before a failure stays.
-/

namespace ValueMethods

/-- Why a command fails. -/
inductive CommandError where
  /-- The settings of the project cannot be used. -/
  | project (error : ProjectError)
  /-- The settings file cannot be written. -/
  | settings (path : String) (cause : FileError)
  /-- A directory for model documents cannot be made. -/
  | modelDirectory (path : String) (cause : FileError)
  /-- There are no model documents. -/
  | noDocuments (roots : List String)
  /-- The model documents cannot be loaded. -/
  | load (error : LoadError)
  /-- The model has no class with that name. -/
  | unknownClass (name : String)
  /-- The arguments for the generator are refused. -/
  | switches (error : SwitchError)
  /-- The units cannot be emitted. -/
  | emission (error : EmissionError)
  deriving DecidableEq

/-- The text shown for the error, with all its reasons. -/
def CommandError.message : CommandError → String
  | .project error => error.message
  | .settings path cause => "Failed to write " ++ path ++ ": " ++ cause.message
  | .modelDirectory path cause => "Failed to create " ++ path ++ ": " ++ cause.message
  | .noDocuments roots =>
      "No model files (.toml or .json) found in " ++ Text.joinWith ", " roots
  | .load error => "Failed to load class model: " ++ error.fullMessage
  | .unknownClass name => "Class '" ++ name ++ "' not found in the model"
  | .switches error => error.message
  | .emission error => "Failed to write generated sources: " ++ error.fullMessage

/-- What a command leaves behind. -/
structure CommandResult where
  /-- The files. -/
  files : FileTree
  /-- What was printed. -/
  screen : Screen
  /-- Why the command failed, if it did. -/
  error : Option CommandError
  deriving DecidableEq

namespace CommandResult

/-- The result of a command that did what it was asked. -/
def done (files : FileTree) (screen : Screen) : CommandResult :=
  ⟨files, screen, none⟩

/-- The result of a command that failed. -/
def failed (files : FileTree) (screen : Screen) (error : CommandError) : CommandResult :=
  ⟨files, screen, some error⟩

end CommandResult

end ValueMethods
