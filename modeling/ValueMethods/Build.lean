import ValueMethods.Documents.Loading
import ValueMethods.Files.Discovery
import ValueMethods.Source.Emission
import ValueMethods.Synthesis.Report
import ValueMethods.Synthesis.Switches

/-!
# Builds

A whole run inside a build: find the documents, load one model from them, generate the value
methods and emit the units.  The arguments are looked at first, so a build with bad arguments reads
nothing, and a build that finds no documents does nothing.
-/

namespace ValueMethods

/-- The settings of a build. -/
structure Build where
  /-- Files and directories with model documents. -/
  models : List String
  /-- The directory for the units. -/
  output : String
  /-- Raw arguments for the generator. -/
  arguments : List String
  /-- The options that the arguments are applied to. -/
  options : Options
  deriving DecidableEq

/-- What a build did. -/
structure BuildSummary where
  /-- The documents that were loaded. -/
  documents : List String
  /-- What was generated. -/
  report : Report
  /-- What was emitted. -/
  files : List EmittedFile
  deriving DecidableEq

/-- Why a build fails. -/
inductive BuildError where
  /-- The arguments are refused. -/
  | switches (error : SwitchError)
  /-- The documents cannot be loaded. -/
  | load (error : LoadError)
  /-- The units cannot be emitted. -/
  | emission (output : String) (error : EmissionError)
  deriving DecidableEq

/-- The text shown for the error, with all its reasons. -/
def BuildError.message : BuildError → String
  | .switches error => error.message
  | .load error => "Failed to load class models: " ++ error.fullMessage
  | .emission output error => "Failed to write sources to " ++ output ++ ": " ++ error.fullMessage

namespace BuildSummary

/-- The summary of a build that found nothing. -/
def empty : BuildSummary where
  documents := []
  report := ⟨[]⟩
  files := []

/-- How many files were written. -/
def writtenCount (summary : BuildSummary) : Nat :=
  (summary.files.filter EmittedFile.isChanged).length

end BuildSummary

namespace Build

/-- The directory for the units where none is named. -/
def usualOutput : String := "target/generated-sources/valuegen"

/-- Where documents are looked for if no place is named. -/
def usualModels : List String := ["schema/"]

/-- The files and directories that are searched. -/
def roots (build : Build) : List String :=
  if build.models.isEmpty then usualModels else build.models

/-- Runs the build on a file tree. -/
def run (build : Build) (tree : FileTree) : FileTree × Except BuildError BuildSummary :=
  match Switches.apply build.options build.arguments with
  | .error error => (tree, .error (.switches error))
  | .ok options =>
      let documents := build.roots.flatMap (Discovery.documents tree)
      if documents.isEmpty then
        (tree, .ok .empty)
      else
        match ClassModel.loadFiles tree documents with
        | .error error => (tree, .error (.load error))
        | .ok loaded =>
            let (model, report) := loaded.generate options
            match model.emit build.output false tree with
            | (changed, .error error) => (changed, .error (.emission build.output error))
            | (changed, .ok files) => (changed, .ok ⟨documents, report, files⟩)

end Build

end ValueMethods
