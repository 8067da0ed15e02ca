import ValueMethods.CommandLine.Request
import ValueMethods.Text.Width

/-!
# Help

What help shows: what a command is for, how it is called with which options, and at length also an
appendix.  For a command the appendix holds examples, and for the program as a whole the environment
variables that it looks at.
-/

namespace ValueMethods

/-- Examples with a title. -/
structure ExampleGroup where
  /-- The title. -/
  title : String
  /-- The command lines. -/
  lines : List String
  deriving DecidableEq

namespace ExampleGroup

/-- The group as text. -/
def text (group : ExampleGroup) : String :=
  "  " ++ group.title ++ "\n" ++
    Text.concat (group.lines.map fun line => "    $ " ++ line ++ "\n")

end ExampleGroup

namespace Help

/-- Groups of examples with a blank line between them. -/
def examplesText (groups : List ExampleGroup) : String :=
  "Examples:\n" ++ Text.joinWith "\n" (groups.map ExampleGroup.text)

/-- The examples of a command. -/
def examples : CommandName → List ExampleGroup
  | .init =>
    [⟨"Set Up", [
      "valuegen init                          # Write valuegen.toml with defaults",
      "valuegen init --skip-to-string         # Only generate equals and hashCode"]⟩,
    ⟨"Custom Layout", [
      "valuegen init --models xsd-out --output-dir src/generated/java",
      "valuegen init --force                  # Overwrite an existing valuegen.toml"]⟩]
  | .generate =>
    [⟨"Generate", [
      "valuegen generate                           # Use models and output_dir from valuegen.toml",
      "valuegen generate schema/orders.toml -o gen # Explicit model file and output directory"]⟩,
    ⟨"Options", [
      "valuegen generate --skip-to-string          # Only equals and hashCode",
      "valuegen generate --plugin-arg=-Xguava --plugin-arg=-Xguava:skipToString",
      "valuegen generate --dry-run                 # Report changes without writing"]⟩]
  | .fields =>
    [⟨"Inspect Identity Fields", [
      "valuegen fields                         # Every class in the configured models",
      "valuegen fields --class Order           # A single class (simple or qualified name)",
      "valuegen fields schema/ --output json   # Machine-readable listing"]⟩]
  | .show =>
    [⟨"Preview Generated Code", [
      "valuegen show Order                     # Generated methods of Order",
      "valuegen show com.example.Order --full  # Whole compilation unit",
      "valuegen show Order --output json       # Method trees as JSON"]⟩]

/-- The environment variables that the program looks at, with what they do. -/
def environment : List (String × String) :=
  [("RUST_LOG", "Log filter for diagnostic output (e.g. valuegen=debug)"),
    ("NO_COLOR", "Disable colored output when set")]

/-- The environment variables in columns, and where to read on. -/
def environmentText : String :=
  let width := (environment.map fun entry => entry.1.utf8ByteSize).foldl max 0
  "Environment:\n" ++
    Text.concat (environment.map fun entry =>
      "  " ++ Text.padTo width entry.1 ++ "  " ++ entry.2 ++ "\n") ++
    "\nRun 'valuegen <command> --help' for examples.\n"

/-- What help shows after the options; short help and help about help end with the options. -/
def appendix (topic : HelpTopic) (long : Bool) : Option String :=
  match long, topic with
  | false, _ => none
  | true, .program => some environmentText
  | true, .command name => some (examplesText (examples name))
  | true, .help => none

end Help

/-- The appendix of the help that a request asks for; there is none if it asks for no help. -/
def Request.appendix : Request → Option String
  | .help topic long => Help.appendix topic long
  | _ => none

namespace Help

/-! ## Usage -/

/-- What a command is for. -/
def purpose : CommandName → String
  | .init => "Write a valuegen.toml in the current directory"
  | .generate => "Synthesize methods for every class and write Java sources"
  | .fields => "List the identity fields of each class"
  | .show => "Print the generated methods of one class"

/-- What the program, a command or help is for. -/
def topicPurpose : HelpTopic → String
  | .program => "Structural equals, hashCode and toString for generated Java classes"
  | .command name => purpose name
  | .help => "Print this message or the help of the given command"

/-- How the program is called. -/
def usageLine : HelpTopic → String
  | .program => "valuegen [OPTIONS] <COMMAND>"
  | .command .init => "valuegen init [OPTIONS]"
  | .command .generate => "valuegen generate [OPTIONS] [PATHS]..."
  | .command .fields => "valuegen fields [OPTIONS] [PATHS]..."
  | .command .show => "valuegen show [OPTIONS] <CLASS> [PATHS]..."
  | .help => "valuegen help [COMMAND]"

/-- The usage of a topic. -/
def usageText (topic : HelpTopic) : String :=
  "Usage: " ++ usageLine topic ++ "\n"

/-- An option as it is listed. -/
def optionLine (rule : OptionRule) : String :=
  "  --" ++ rule.long ++ (rule.short.elim "" fun letter => ", -" ++ String.ofList [letter]) ++ "\n"

/-- The options that a topic has. -/
def topicOptions : HelpTopic → List OptionRule
  | .program => CommandRules.program.options
  | .command name => (CommandRules.of name).options
  | .help => []

/-- The commands with what they are for. -/
def commandLines : String :=
  Text.concat (CommandName.all.map fun name =>
    "  " ++ Text.padTo 10 name.text ++ purpose name ++ "\n")

/-- The listings of a topic: commands and options. -/
def listings (topic : HelpTopic) : String :=
  (if topic = .program then "\nCommands:\n" ++ commandLines else "") ++
    (match topicOptions topic with
      | [] => ""
      | rules => "\nOptions:\n" ++ Text.concat (rules.map optionLine))

/-- What help shows about a topic. -/
def text (topic : HelpTopic) (long : Bool) : String :=
  topicPurpose topic ++ "\n\n" ++ usageText topic ++ listings topic ++
    (appendix topic long).elim "" ("\n" ++ ·)

end Help

end ValueMethods
