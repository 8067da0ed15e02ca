import ValueMethods.CommandLine.Request
import ValueMethods.Project.Basic

/-!
# Places of a request

Which files a request can look at or change, as paths: the settings files on the way up from the
current directory, and what the settings and the request name.  Of the latter everything below
counts too.
-/

namespace ValueMethods

/-- The settings files that may apply in a directory. -/
def Project.settingsPathsAbove (directory : String) : List String :=
  (Path.ancestors directory).map settingsPathIn

namespace Command

/-- The places of a command that works on the model of a project. -/
def modelPlaces (tree : FileTree) (given : List String) : List String :=
  match Project.find tree tree.currentPath with
  | .error _ => []
  | .ok project => project.documentRoots given

/-- The directory for the units. -/
def outputPlaces (tree : FileTree) (given : Option String) : List String :=
  match Project.find tree tree.currentPath with
  | .error _ => []
  | .ok project => [project.outputDirectory given]

/-- The places of a command, when the settings files are known. -/
def places (command : Command) (tree : FileTree) : List String :=
  match command with
  | .init request =>
      (request.models.elim Settings.default.models fun place => [place]).map
        (Path.join tree.currentPath)
  | .generate request =>
      modelPlaces tree request.paths ++ outputPlaces tree request.output
  | .fields request => modelPlaces tree request.paths
  | .show request => modelPlaces tree request.paths

end Command

/-- The places of a request, when the settings files are known. -/
def Request.places (request : Request) (tree : FileTree) : List String :=
  match request with
  | .run _ command => command.places tree
  | _ => []

end ValueMethods
