import ValueMethods.Data.Decoding
import ValueMethods.Data.TomlReader
import ValueMethods.Data.TomlText
import ValueMethods.Synthesis.Options

/-!
# Project settings

What a settings file says about a project: where its model documents are, where the units go, and
how methods are generated.  All of it may be left out.  The file is TOML with one table for the
generator and one for the helper classes.
-/

namespace ValueMethods

/-- The settings of a project. -/
structure Settings where
  /-- Whether `toString` is left out. -/
  skipToString : Bool
  /-- The directory for the units, from the project directory on. -/
  output : String
  /-- The places of the model documents, from the project directory on. -/
  models : List String
  /-- The helper classes. -/
  helpers : Helpers
  deriving DecidableEq

namespace Settings

/-- The settings where nothing is said. -/
def default : Settings where
  skipToString := false
  output := "target/generated-sources/valuegen"
  models := ["schema"]
  helpers := Helpers.default

/-! ## Writing -/

/-- One line of a table: a key and the text of its value. -/
def line (key value : String) : String :=
  key ++ " = " ++ value ++ "\n"

/-- The settings as TOML. -/
def text (settings : Settings) : String :=
  "[generator]\n" ++
    line "skip_to_string" (Toml.boolText settings.skipToString) ++
    line "output_dir" (Toml.stringText settings.output) ++
    line "models" (Toml.stringListText settings.models) ++
    "\n[helpers]\n" ++
    line "to_string" (Toml.stringText settings.helpers.toStringHelper) ++
    line "objects" (Toml.stringText settings.helpers.objects)

/-- The content of a new settings file: the day it was made, and the settings. -/
def fileText (settings : Settings) (day : String) : String :=
  "# valuegen configuration, created " ++ day ++ "\n\n" ++ settings.text

end Settings

/-! ## Reading -/

namespace Decode

/-- The table of the generator under construction. -/
structure GeneratorDraft where
  /-- Whether `toString` is left out. -/
  skipToString : Option Bool := none
  /-- The directory for the units. -/
  output : Option String := none
  /-- The places of the model documents. -/
  models : Option (List String) := none

/-- Takes in one entry of the table of the generator. -/
def GeneratorDraft.take (draft : GeneratorDraft) (key : String) (value : DataTree) :
    Except DataFault GeneratorDraft :=
  match key with
  | "skip_to_string" => do
      .ok { draft with skipToString := ← assign key draft.skipToString flag value }
  | "output_dir" => do .ok { draft with output := ← assign key draft.output text value }
  | "models" => do .ok { draft with models := ← assign key draft.models (list text) value }
  | _ => do
      skip value
      .ok draft

/-- The table of the generator. -/
def generator : DataTree → Except DataFault GeneratorDraft
  | .map entries => foldEntries GeneratorDraft.take {} entries
  | .list items => do
      let (skipToString, rest) ← next flag items
      let (output, rest) ← next text rest
      let (models, rest) ← next (list text) rest
      finish true rest
      .ok { skipToString, output, models }
  | tree => .error (mismatch "a table" tree)

/-- The table of the helper classes under construction. -/
structure HelpersDraft where
  /-- The class that provides `toStringHelper`. -/
  toStringHelper : Option String := none
  /-- The class that provides `hash` and `equals`. -/
  objects : Option String := none

/-- Takes in one entry of the table of the helper classes. -/
def HelpersDraft.take (draft : HelpersDraft) (key : String) (value : DataTree) :
    Except DataFault HelpersDraft :=
  match key with
  | "to_string" => do
      .ok { draft with toStringHelper := ← assign key draft.toStringHelper text value }
  | "objects" => do .ok { draft with objects := ← assign key draft.objects text value }
  | _ => do
      skip value
      .ok draft

/-- The table of the helper classes. -/
def helpers : DataTree → Except DataFault HelpersDraft
  | .map entries => foldEntries HelpersDraft.take {} entries
  | .list items => do
      let (toStringHelper, rest) ← next text items
      let (objects, rest) ← next text rest
      finish true rest
      .ok { toStringHelper, objects }
  | tree => .error (mismatch "a table" tree)

/-- Settings under construction. -/
structure SettingsDraft where
  /-- The table of the generator. -/
  generator : Option GeneratorDraft := none
  /-- The table of the helper classes. -/
  helpers : Option HelpersDraft := none

/-- Takes in one entry of the settings. -/
def SettingsDraft.take (draft : SettingsDraft) (key : String) (value : DataTree) :
    Except DataFault SettingsDraft :=
  match key with
  | "generator" => do
      .ok { draft with generator := ← assign key draft.generator Decode.generator value }
  | "helpers" => do .ok { draft with helpers := ← assign key draft.helpers Decode.helpers value }
  | _ => do
      skip value
      .ok draft

/-- The settings of a draft; what is left out has its usual value. -/
def SettingsDraft.settings (draft : SettingsDraft) : Settings :=
  let generator := draft.generator.getD {}
  let helpers := draft.helpers.getD {}
  { skipToString := generator.skipToString.getD Settings.default.skipToString
    output := generator.output.getD Settings.default.output
    models := generator.models.getD Settings.default.models
    helpers :=
      { toStringHelper := helpers.toStringHelper.getD Helpers.default.toStringHelper
        objects := helpers.objects.getD Helpers.default.objects } }

/-- Settings. -/
def settings : DataTree → Except DataFault Settings
  | .map entries => do
      let draft ← foldEntries SettingsDraft.take {} entries
      .ok draft.settings
  | tree => .error (mismatch "a table" tree)

end Decode

/-- Reads settings from TOML. -/
def Settings.read (text : String) : Except DataFault Settings :=
  match Toml.read? text with
  | some tree => Decode.settings tree
  | none => .error .malformed

end ValueMethods
