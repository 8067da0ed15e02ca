import ValueMethods.CommandLine.Failure
import ValueMethods.CommandLine.Request
import ValueMethods.Text.Moment

/-!
# Setting up a project

Writing the settings file of a new project in the current directory, and making the directories
for its model documents.  A settings file that is there already is only replaced on demand.
-/

namespace ValueMethods

namespace InitRequest

/-- The settings of the new project. -/
def settings (request : InitRequest) : Settings :=
  { Settings.default with
    skipToString := request.skipToString
    models := request.models.elim Settings.default.models fun place => [place]
    output := request.output.getD Settings.default.output }

end InitRequest

namespace Setup

/-- Makes the directories for model documents as far as they are missing, and lists those that were
made. -/
def makeModelDirectories (root : String) :
    FileTree → Screen → List String → FileTree × Screen × Option CommandError
  | tree, screen, [] => (tree, screen, none)
  | tree, screen, place :: rest =>
      let path := Path.join root place
      if tree.hasPath path then
        makeModelDirectories root tree screen rest
      else
        match tree.makeDirectories path with
        | (changed, .error cause) => (changed, screen, some (.modelDirectory path cause))
        | (changed, .ok ()) =>
            makeModelDirectories root changed
              (screen.item "+" ("model directory " ++ place ++ "/")) rest

/-- Writes the settings file of a project, and makes the directories for its documents. -/
def create (project : Project) (settings : Settings) (moment : Moment) (tree : FileTree)
    (screen : Screen) : CommandResult :=
  let path := project.settingsPath
  match tree.write path (settings.fileText moment.dayText).toUTF8 with
  | .error cause => .failed tree screen (.settings path cause)
  | .ok written =>
      match makeModelDirectories project.root written (screen.success ("Created " ++ path))
          settings.models with
      | (final, printed, some error) => .failed final printed error
      | (final, printed, none) =>
          .done final
            (printed.info "Add .toml or .json class models, then run 'valuegen generate'.")

/-- Sets up a project in the current directory. -/
def run (request : InitRequest) (moment : Moment) (tree : FileTree) (screen : Screen) :
    CommandResult :=
  match Project.openAt tree tree.currentPath with
  | .error error => .failed tree screen (.project error)
  | .ok project =>
      let headed := screen.heading "Initialize valuegen"
      if tree.hasPath project.settingsPath && !request.force then
        .done tree
          ((headed.warning (Project.settingsName ++ " already exists in " ++ project.root)).info
            "Use --force to overwrite it.")
      else
        create project request.settings moment tree headed

end Setup

end ValueMethods
