import ValueMethods.Data.JsonText
import ValueMethods.Terminal.Style
import ValueMethods.Terminal.Table

/-!
# What a command prints

The text that a command has printed so far, on standard output and on standard error, together with
how it was asked to print.  A quiet command prints nothing but its failure.
-/

namespace ValueMethods

/-- The form in which results are printed. -/
inductive OutputFormat where
  /-- Tables and headings. -/
  | table
  /-- JSON over several lines. -/
  | json
  /-- One line for each class. -/
  | compact
  deriving DecidableEq

/-- The name of the form on the command line. -/
def OutputFormat.name : OutputFormat → String
  | .table => "table"
  | .json => "json"
  | .compact => "compact"

/-- The forms, in the order in which they are offered. -/
def OutputFormat.all : List OutputFormat :=
  [.table, .json, .compact]

/-- The form with a name. -/
def OutputFormat.ofName? (name : String) : Option OutputFormat :=
  OutputFormat.all.find? fun format => format.name == name

/-- How a command prints. -/
structure Manner where
  /-- The form of results. -/
  format : OutputFormat
  /-- Whether nothing is printed but failures. -/
  quiet : Bool
  /-- Whether progress is printed. -/
  verbose : Bool
  /-- Whether tables and texts are kept plain. -/
  plain : Bool
  /-- Whether the terminal shows colours. -/
  colours : Bool
  deriving DecidableEq

/-- What a command has printed. -/
structure Screen where
  /-- How the command prints. -/
  manner : Manner
  /-- The text on standard output. -/
  output : String
  /-- The text on standard error. -/
  errors : String
  deriving DecidableEq

namespace Manner

/-- A text in a style, if the terminal shows colours and is asked to. -/
def paint (manner : Manner) (style : Style) (text : String) : String :=
  if manner.colours && !manner.plain then style.paint text else text

/-- A mark and a message in one style. -/
def statusLine (manner : Manner) (style : Style) (mark message : String) : String :=
  manner.paint style mark ++ " " ++ manner.paint style message ++ "\n"

end Manner

namespace Screen

/-- The screen on which nothing has been printed. -/
def blank (manner : Manner) : Screen where
  manner := manner
  output := ""
  errors := ""

/-- Prints a text, unless the command is quiet. -/
def print (screen : Screen) (text : String) : Screen :=
  if screen.manner.quiet then screen else { screen with output := screen.output ++ text }

/-- Prints that something was done. -/
def success (screen : Screen) (message : String) : Screen :=
  screen.print (screen.manner.statusLine .success "✓" message)

/-- Prints something to be looked at. -/
def warning (screen : Screen) (message : String) : Screen :=
  screen.print (screen.manner.statusLine .warning "⚠" message)

/-- Prints something good to know. -/
def info (screen : Screen) (message : String) : Screen :=
  screen.print (screen.manner.statusLine .info "ℹ" message)

/-- Prints progress on standard error, if the command was asked for it. -/
def progress (screen : Screen) (message : String) : Screen :=
  if screen.manner.verbose && !screen.manner.quiet then
    { screen with errors := screen.errors ++ screen.manner.statusLine .muted "→" message }
  else
    screen

/-- Prints why the command failed, even if it is quiet. -/
def failure (screen : Screen) (message : String) : Screen :=
  { screen with errors := screen.errors ++ screen.manner.statusLine .error "✗" message }

/-- Prints a heading, with a blank line before it. -/
def heading (screen : Screen) (text : String) : Screen :=
  screen.print ("\n" ++ screen.manner.paint .heading text ++ "\n")

/-- Prints a value with its name. -/
def keyValue (screen : Screen) (key value : String) : Screen :=
  screen.print (screen.manner.paint .key key ++ ": " ++ value ++ "\n")

/-- Prints an item of a list behind a mark. -/
def item (screen : Screen) (mark text : String) : Screen :=
  screen.print ("  " ++ screen.manner.paint .muted mark ++ " " ++ text ++ "\n")

/-- Prints a text as it is, with a line end after it unless it has one. -/
def code (screen : Screen) (text : String) : Screen :=
  screen.print (if text.toList.getLast? = some '\n' then text else text ++ "\n")

/-- Prints data over several lines. -/
def json (screen : Screen) (tree : DataTree) : Screen :=
  screen.print (Json.pretty 0 tree ++ "\n")

/-- The lines that tables are drawn with. -/
def tableStyle (screen : Screen) : TableStyle :=
  if screen.manner.plain then .ascii else .boxed

end Screen

end ValueMethods
