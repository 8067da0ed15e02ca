import ValueMethods.Files.Tree
import ValueMethods.Project.Settings

/-!
# Projects

A project is a directory with a settings file.  It is looked for in a directory and in those above
it; where there is none, the directory itself is a project with the usual settings.  What a command
is given explicitly goes before the settings.
-/

namespace ValueMethods

/-- A project. -/
structure Project where
  /-- Path of the project directory. -/
  root : String
  /-- What the settings file says, if there is one. -/
  stated : Option Settings
  deriving DecidableEq

/-- Why the settings of a project cannot be used. -/
inductive ProjectError where
  /-- The settings file cannot be read. -/
  | unreadable (path : String) (cause : FileError)
  /-- The settings file does not hold settings. -/
  | invalid (path : String) (fault : DataFault)
  deriving DecidableEq

/-- The text shown for the error. -/
def ProjectError.message : ProjectError → String
  | .unreadable path cause => "Failed to read " ++ path ++ ": " ++ cause.message
  | .invalid path fault =>
      "Failed to parse " ++ path ++ ": TOML parse error: " ++
        fault.message?.getD "the text is not well formed"

namespace Project

/-- The name of a settings file. -/
def settingsName : String := "valuegen.toml"

/-- The path of the settings file in a directory. -/
def settingsPathIn (directory : String) : String :=
  Path.join directory settingsName

/-- The path of the settings file of the project. -/
def settingsPath (project : Project) : String :=
  settingsPathIn project.root

/-! ## Opening -/

/-- The project in a directory. -/
def openAt (tree : FileTree) (root : String) : Except ProjectError Project :=
  let path := settingsPathIn root
  if tree.hasPath path then
    match tree.readText path with
    | .error cause => .error (.unreadable path cause)
    | .ok content =>
        match Settings.read content with
        | .error fault => .error (.invalid path fault)
        | .ok settings => .ok ⟨root, some settings⟩
  else
    .ok ⟨root, none⟩

/-- The first directory with a settings file on the way up from a directory. -/
def rootAbove? (tree : FileTree) (start : String) : Option String :=
  (Path.ancestors start).find? fun directory => tree.isFile (settingsPathIn directory)

/-- The project that a directory belongs to. -/
def find (tree : FileTree) (start : String) : Except ProjectError Project :=
  openAt tree ((rootAbove? tree start).getD start)

/-! ## What applies -/

/-- The settings that apply to the project. -/
def settings (project : Project) : Settings :=
  project.stated.getD Settings.default

/-- Whether the project has a settings file. -/
def hasSettings (project : Project) : Bool :=
  project.stated.isSome

/-- Where model documents are looked for: in the given places, or else where the settings say. -/
def documentRoots (project : Project) (given : List String) : List String :=
  if given.isEmpty then project.settings.models.map (Path.join project.root) else given

/-- The directory for the units: the given one, or else the one of the settings. -/
def outputDirectory (project : Project) (given : Option String) : String :=
  given.getD (Path.join project.root project.settings.output)

/-- The options of a generation run.  Leaving out `toString` can be asked for in the settings or by
the caller, and neither can take it back. -/
def options (project : Project) (skipToString : Bool) : Options where
  skipToString := project.settings.skipToString || skipToString
  helpers := project.settings.helpers

end Project

end ValueMethods
