import ValueMethods.CommandLine.Arguments
import ValueMethods.Terminal.Screen

/-!
# Requests

What an argument list asks the program for.  Options that say how to print can stand before the
command and after it; where both name a form, the one after the command counts.  The arguments of
the command are taken in before the last option in front of it is settled.
-/

namespace ValueMethods

/-- The commands of the program. -/
inductive CommandName where
  /-- Write a settings file. -/
  | init
  /-- Generate methods and write the units. -/
  | generate
  /-- List identity fields. -/
  | fields
  /-- Print what would be generated for one class. -/
  | show
  deriving DecidableEq

namespace CommandName

/-- All commands. -/
def all : List CommandName :=
  [.init, .generate, .fields, .show]

/-- The word for the command. -/
def text : CommandName → String
  | .init => "init"
  | .generate => "generate"
  | .fields => "fields"
  | .show => "show"

/-- The command that a word stands for. -/
def ofText? (word : String) : Option CommandName :=
  all.find? fun command => command.text == word

end CommandName

/-- What `init` is asked to do. -/
structure InitRequest where
  /-- Whether a settings file that is there already is replaced. -/
  force : Bool
  /-- Whether the new settings leave out `toString`. -/
  skipToString : Bool
  /-- The place of the model documents, if it is given. -/
  models : Option String
  /-- The directory for the units, if it is given. -/
  output : Option String
  deriving DecidableEq

/-- What `generate` is asked to do. -/
structure GenerateRequest where
  /-- The places of the model documents; none means those of the project. -/
  paths : List String
  /-- The directory for the units, if it is given. -/
  output : Option String
  /-- Whether it is only said what would be written. -/
  dryRun : Bool
  /-- Whether `toString` is left out. -/
  skipToString : Bool
  /-- Raw arguments for the generator. -/
  arguments : List String
  deriving DecidableEq

/-- What `fields` is asked to do. -/
structure FieldsRequest where
  /-- The places of the model documents; none means those of the project. -/
  paths : List String
  /-- The only class to list, if one is given. -/
  className : Option String
  deriving DecidableEq

/-- What `show` is asked to do. -/
structure ShowRequest where
  /-- The class to show. -/
  className : String
  /-- The places of the model documents; none means those of the project. -/
  paths : List String
  /-- Whether the whole unit is shown. -/
  full : Bool
  /-- Whether `toString` is left out. -/
  skipToString : Bool
  deriving DecidableEq

/-- A command with what it is asked to do. -/
inductive Command where
  /-- Write a settings file. -/
  | init (request : InitRequest)
  /-- Generate methods and write the units. -/
  | generate (request : GenerateRequest)
  /-- List identity fields. -/
  | fields (request : FieldsRequest)
  /-- Print what would be generated for one class. -/
  | show (request : ShowRequest)
  deriving DecidableEq

/-- How a command is asked to print. -/
structure PrintRequest where
  /-- The form of results. -/
  format : OutputFormat
  /-- Whether nothing is printed but failures. -/
  quiet : Bool
  /-- Whether progress is printed. -/
  verbose : Bool
  /-- Whether tables and texts are kept plain. -/
  plain : Bool
  deriving DecidableEq

/-- What help is asked about. -/
inductive HelpTopic where
  /-- The program as a whole. -/
  | program
  /-- One command. -/
  | command (name : CommandName)
  /-- The help itself. -/
  | help
  deriving DecidableEq

/-- What an argument list asks for. -/
inductive Request where
  /-- Run a command. -/
  | run (printing : PrintRequest) (command : Command)
  /-- Print help, at length or in short. -/
  | help (topic : HelpTopic) (long : Bool)
  /-- Print the version. -/
  | version
  /-- Nothing that the program understands. -/
  | misuse
  deriving DecidableEq

/-! ## Rules -/

namespace CommandRules

/-- An option that is given or not. -/
def flag (long : String) (short : Option Char) : OptionRule :=
  ⟨long, short, .flag⟩

/-- The options that say how to print, and the one that asks for help. -/
def shared : List OptionRule :=
  [⟨"output", none, .single (.oneOf (OutputFormat.all.map OutputFormat.name))⟩,
    flag "quiet" (some 'q'), flag "verbose" (some 'v'), flag "no-color" none,
    ⟨"help", some 'h', .help⟩]

/-- The rules for what stands before the command. -/
def program : CommandRules where
  options := shared ++ [⟨"version", some 'V', .version⟩]
  firstWords := []
  furtherWords := none

/-- The rules for what stands after the command. -/
def of : CommandName → CommandRules
  | .init =>
      { options := shared ++
          [flag "force" none, flag "skip-to-string" none, ⟨"models", none, .single .any⟩,
            ⟨"output-dir", none, .single .any⟩]
        firstWords := []
        furtherWords := none }
  | .generate =>
      { options := shared ++
          [⟨"out", some 'o', .single .nonempty⟩, flag "dry-run" none, flag "skip-to-string" none,
            ⟨"plugin-arg", none, .repeated⟩]
        firstWords := []
        furtherWords := some .nonempty }
  | .fields =>
      { options := shared ++ [⟨"class", some 'c', .single .any⟩]
        firstWords := []
        furtherWords := some .nonempty }
  | .show =>
      { options := shared ++ [flag "full" none, flag "skip-to-string" none]
        firstWords := [.any]
        furtherWords := some .nonempty }

end CommandRules

/-! ## Reading -/

namespace Command

/-- The command with what was taken from its arguments, unless a word is missing. -/
def ofTaken? (name : CommandName) (taken : Taken) : Option Command :=
  match name with
  | .init =>
      some (.init
        { force := taken.has "force"
          skipToString := taken.has "skip-to-string"
          models := taken.value? "models"
          output := taken.value? "output-dir" })
  | .generate =>
      some (.generate
        { paths := taken.words
          output := taken.value? "out"
          dryRun := taken.has "dry-run"
          skipToString := taken.has "skip-to-string"
          arguments := taken.values "plugin-arg" })
  | .fields => some (.fields { paths := taken.words, className := taken.value? "class" })
  | .show =>
      match taken.words with
      | [] => none
      | className :: paths =>
          some (.show
            { className
              paths
              full := taken.has "full"
              skipToString := taken.has "skip-to-string" })

end Command

/-- How to print, by what was taken before the command and after it. -/
def PrintRequest.ofTaken (before after : Taken) : PrintRequest where
  format :=
    (((after.value? "output").or (before.value? "output")).bind OutputFormat.ofName?).getD .table
  quiet := before.has "quiet" || after.has "quiet"
  verbose := before.has "verbose" || after.has "verbose"
  plain := before.has "no-color" || after.has "no-color"

namespace Request

/-- The request behind an interruption. -/
def ofInterruption (topic : HelpTopic) : Interruption → Request
  | .misuse => .misuse
  | .help long => .help topic long
  | .version => .version

/-- The help that the words after `help` ask for. -/
def readHelp (words : List String) : Request :=
  match words with
  | [] => .help .program true
  | [word] =>
      match CommandName.ofText? word with
      | some name => .help (.command name) true
      | none => if word = "help" then .help .help true else .misuse
  | _ => .misuse

/-- The request with a command, by what was taken before it and its own arguments. -/
def readCommand (before : Taken) (name : CommandName) (arguments : List String) : Request :=
  match (CommandRules.of name).take .nothing arguments with
  | .error interruption => ofInterruption (.command name) interruption
  | .ok after =>
      match Command.ofTaken? name after, before.settle with
      | some command, .ok settled => .run (PrintRequest.ofTaken settled after) command
      | none, _ => .misuse
      | some _, .error interruption => ofInterruption .program interruption

/-- Reads the arguments from the point where the command is still to come. -/
def readFrom (before : Taken) : List String → Request
  | [] => .misuse
  | argument :: rest =>
      if before.waiting?.isNone && argument == "help" then
        readHelp rest
      else
        match if before.waiting?.isNone then CommandName.ofText? argument else none with
        | some name => readCommand before name rest
        | none =>
            if CommandRules.endsOptions before argument then
              .misuse
            else
              match CommandRules.program.takeArgument before argument with
              | .error interruption => ofInterruption .program interruption
              | .ok changed => readFrom changed rest

/-- What an argument list asks for. -/
def read (arguments : List String) : Request :=
  readFrom .nothing arguments

end Request

end ValueMethods
