import ValueMethods.Text.Split

/-!
# Text styles

Coloured text for terminals.  A style is switched on before the text and off after it; where the
text itself switches styles off, the style is switched on again.
-/

namespace ValueMethods

/-- How a text looks. -/
inductive Style where
  /-- Done. -/
  | success
  /-- To be looked at. -/
  | warning
  /-- Good to know. -/
  | info
  /-- Failed. -/
  | error
  /-- In the background. -/
  | muted
  /-- The name in front of a value. -/
  | key
  /-- A heading. -/
  | heading
  deriving DecidableEq

namespace Style

/-- The parameters of the control sequence that switches the style on. -/
def parameters : Style → String
  | .success => "32"
  | .warning => "33"
  | .info => "34"
  | .error => "31"
  | .muted => "90"
  | .key => "96"
  | .heading => "1;94"

/-- The control sequence that switches the style on. -/
def opening (style : Style) : String :=
  "\x1b[" ++ style.parameters ++ "m"

/-- The control sequence that switches all styles off. -/
def reset : String := "\x1b[0m"

/-- A text in which a mark stands after each occurrence of a pattern. -/
def markAfter (pattern mark : List Char) : Nat → List Char → List Char
  | 0, text => text
  | _ + 1, [] => []
  | limit + 1, c :: rest =>
      match Text.dropPrefix? pattern (c :: rest) with
      | some after => pattern ++ mark ++ markAfter pattern mark limit after
      | none => c :: markAfter pattern mark limit rest

/-- A text in a style. -/
def paint (style : Style) (text : String) : String :=
  style.opening ++
    String.ofList (markAfter reset.toList style.opening.toList (text.length + 1) text.toList) ++
    reset

end Style

end ValueMethods
