import ValueMethods.Synthesis.Options
import ValueMethods.Text.Quoted

/-!
# Switches

The command line switches of the generator: one enables it, and one leaves out `toString`.  Both
start with the same text, and any other argument that starts with it is refused; arguments that do
not are meant for someone else.  Blanks around an argument do not count.
-/

namespace ValueMethods

/-- Why arguments are refused. -/
inductive SwitchError where
  /-- The argument is meant for the generator but means nothing to it. -/
  | unknownOption (argument : String)
  /-- The argument only makes sense when the generator is enabled. -/
  | requiresEnabling (argument : String)
  /-- There are arguments, and none of them enables the generator. -/
  | notEnabled (arguments : List String)
  /-- There is no argument at that position. -/
  | indexOutOfRange (index count : Nat)
  deriving DecidableEq

namespace Switch

/-- The name of the option, without the dash. -/
def optionName : String := "Xguava"

/-- The argument that enables the generator. -/
def enableText : String := "-Xguava"

/-- The argument that leaves out `toString`. -/
def skipToStringText : String := "-Xguava:skipToString"

/-- A line for each switch. -/
def usage : String :=
  "  " ++ enableText ++
    "\t:  enable generation of guava toString, equals and hashCode methods\n    " ++
    skipToStringText ++ "\t:  do not generate toString methods"

end Switch

/-- The text shown for the error. -/
def SwitchError.message : SwitchError → String
  | .unknownOption argument =>
      "unrecognized option '" ++ argument ++ "'\nusage:\n" ++ Switch.usage
  | .requiresEnabling argument =>
      "option '" ++ argument ++ "' requires the plugin to be enabled with '-" ++
        Switch.optionName ++ "'"
  | .notEnabled arguments =>
      "plugin arguments " ++ Text.quotedList arguments ++
        " do not enable the plugin with '-" ++ Switch.optionName ++ "'"
  | .indexOutOfRange index count =>
      "argument index " ++ toString index ++ " must be less than " ++ toString count

namespace Switches

/-- Takes account of the argument at `index`; the number of arguments that were consumed and
whether `toString` is left out from now on. -/
def consume (skip : Bool) (arguments : List String) (index : Nat) :
    Except SwitchError (Nat × Bool) :=
  match arguments[index]? with
  | none => .error (.indexOutOfRange index arguments.length)
  | some argument =>
      let text := Text.trimmed argument
      if text = Switch.skipToStringText then .ok (1, true)
      else if text ≠ Switch.enableText && Text.startsWith text Switch.enableText then
        .error (.unknownOption text)
      else .ok (0, skip)

/-- Whether one of the arguments enables the generator. -/
def enabled (arguments : List String) : Bool :=
  arguments.any fun argument => Text.trimmed argument == Switch.enableText

/-- Goes through arguments with their positions; whether `toString` is left out.  The argument that
enables the generator and those meant for someone else are passed over.  Without the generator
enabled, an argument that can be taken account of is refused. -/
def scan (enabled : Bool) (arguments : List String) :
    Bool → List (String × Nat) → Except SwitchError Bool
  | skip, [] => .ok skip
  | skip, (argument, index) :: rest =>
      let text := Text.trimmed argument
      if text = Switch.enableText || !Text.startsWith text Switch.enableText then
        scan enabled arguments skip rest
      else
        match consume skip arguments index with
        | .error error => .error error
        | .ok (_, changed) =>
            if enabled then scan enabled arguments changed rest
            else .error (.requiresEnabling text)

/-- Reads a whole argument list: nothing if the generator is not enabled, and otherwise whether
`toString` is left out. -/
def read (arguments : List String) : Except SwitchError (Option Bool) :=
  match scan (enabled arguments) arguments false arguments.zipIdx with
  | .ok skip => .ok (if enabled arguments then some skip else none)
  | .error error => .error error

/-- Applies arguments on top of options.  Without arguments the options stand as they are; with
arguments the generator must be enabled, and `toString` can only be turned off. -/
def apply (options : Options) (arguments : List String) : Except SwitchError Options :=
  if arguments.isEmpty then
    .ok options
  else
    match read arguments with
    | .error error => .error error
    | .ok none => .error (.notEnabled arguments)
    | .ok (some skip) => .ok { options with skipToString := options.skipToString || skip }

end Switches

end ValueMethods
