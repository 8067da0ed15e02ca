import ValueMethods.CommandLine.FieldListing
import ValueMethods.CommandLine.Generation
import ValueMethods.CommandLine.Help
import ValueMethods.CommandLine.Preview
import ValueMethods.CommandLine.Setup

/-!
# Runs of the program

What a run of the program does, from its arguments and surroundings to what it prints, the files it
leaves behind and its exit code.
-/

namespace ValueMethods

/-- What a run of the program starts from. -/
structure Surroundings where
  /-- The files, and the current directory. -/
  files : FileTree
  /-- The time. -/
  moment : Moment
  /-- Whether the terminal shows colours. -/
  colours : Bool
  deriving DecidableEq

/-- What a run of the program leaves behind. -/
structure ProgramResult where
  /-- The files. -/
  files : FileTree
  /-- The exit code. -/
  code : Nat
  /-- The text on standard output. -/
  output : String
  /-- The text on standard error. -/
  errors : String
  deriving DecidableEq

namespace Command

/-- Runs a command. -/
def run (command : Command) (moment : Moment) (files : FileTree) (screen : Screen) :
    CommandResult :=
  match command with
  | .init request => Setup.run request moment files screen
  | .generate request => Generation.run request moment files screen
  | .fields request => FieldListing.run request files screen
  | .show request => Preview.run request files screen

end Command

/-- The result of the program when a command has run: the failure is printed last. -/
def CommandResult.program (result : CommandResult) : ProgramResult :=
  match result.error with
  | none => ⟨result.files, 0, result.screen.output, result.screen.errors⟩
  | some error =>
      let screen := result.screen.failure error.message
      ⟨result.files, 1, screen.output, screen.errors⟩

namespace Program

/-- The line that is printed for the version. -/
def versionLine : String := "valuegen 0.1.0\n"

/-- How to print, in the given surroundings. -/
def manner (printing : PrintRequest) (surroundings : Surroundings) : Manner where
  format := printing.format
  quiet := printing.quiet
  verbose := printing.verbose
  plain := printing.plain
  colours := surroundings.colours

/-- Does what an argument list asks for. -/
def answer (surroundings : Surroundings) : Request → ProgramResult
  | .run printing command =>
      (command.run surroundings.moment surroundings.files
        (.blank (manner printing surroundings))).program
  | .help topic long => ⟨surroundings.files, 0, Help.text topic long, ""⟩
  | .version => ⟨surroundings.files, 0, versionLine, ""⟩
  | .misuse => ⟨surroundings.files, 2, "", Help.usageText .program⟩

/-- Runs the program. -/
def run (arguments : List String) (surroundings : Surroundings) : ProgramResult :=
  answer surroundings (Request.read arguments)

end Program

end ValueMethods
