import ValueMethods.Java.Code

/-!
# Code trees as text

How expressions, statements and methods are written.  A method is a list of lines, each with its
depth; laying the lines out puts four blanks in front of a line for each level.
-/

namespace ValueMethods

/-- The indentation of one level. -/
def indentUnit : String := "    "

/-- The indentation of a line at the given depth. -/
def indentation (depth : Nat) : String :=
  Text.repeated depth indentUnit

/-! ## String literals -/

/-- The text of a character inside a string literal.  Quotes, backslashes and line feeds are
escaped, every other character stands for itself. -/
def literalChar (c : Char) : List Char :=
  if c = '"' then ['\\', '"']
  else if c = '\\' then ['\\', '\\']
  else if c = '\n' then ['\\', 'n']
  else [c]

/-- The string literal that denotes a text. -/
def stringLiteral (text : String) : String :=
  "\"" ++ String.ofList (text.toList.flatMap literalChar) ++ "\""

/-! ## Expressions -/

namespace Listing

/-- The call that adds one field to the listing. -/
def entryText (entry : LabelledField) : String :=
  ".add(" ++ stringLiteral entry.label ++ ", " ++ entry.field ++ ")"

/-- The chain of helper calls that produces the listing. -/
def text (content : Listing) : String :=
  content.helper.name ++ ".toStringHelper(this)" ++
    (if content.omitNulls then ".omitNullValues()" else "") ++
    Text.concat (content.entries.map entryText) ++ ".toString()"

end Listing

mutual

/-- The text of an expression.  A binary operation inside another expression is put in
parentheses, except as an argument of a call. -/
def Expr.text (nested : Bool) : Expr → String
  | .this => "this"
  | .null => "null"
  | .bool true => "true"
  | .bool false => "false"
  | .local name => name
  | .ownField name => name
  | .fieldOf target name => target.text true ++ "." ++ name
  | .ownCall method arguments => method ++ "(" ++ Expr.argumentText arguments ++ ")"
  | .callOn target method arguments =>
      target.text true ++ "." ++ method ++ "(" ++ Expr.argumentText arguments ++ ")"
  | .staticCall owner method arguments =>
      owner.name ++ "." ++ method ++ "(" ++ Expr.argumentText arguments ++ ")"
  | .cast type operand => "((" ++ type ++ ") " ++ operand.text true ++ ")"
  | .binary operator left right =>
      let inner := left.text true ++ " " ++ operator.symbol ++ " " ++ right.text true
      if nested then "(" ++ inner ++ ")" else inner
  | .listing content => content.text

/-- The arguments of a call, separated by commas. -/
def Expr.argumentText : List Expr → String
  | [] => ""
  | [last] => last.text false
  | first :: next :: rest => first.text false ++ ", " ++ Expr.argumentText (next :: rest)

end

/-! ## Lines -/

/-- A line of code at some depth. -/
structure CodeLine where
  /-- How many levels the line is indented by. -/
  depth : Nat
  /-- The line without its indentation. -/
  text : String
  deriving DecidableEq

/-- The line written out `margin` levels further to the right. -/
def CodeLine.layout (margin : Nat) (line : CodeLine) : String :=
  indentation (margin + line.depth) ++ line.text ++ "\n"

mutual

/-- The lines of a statement at the given depth. -/
def Stmt.lines (depth : Nat) : Stmt → List CodeLine
  | .branch condition body =>
      ⟨depth, "if (" ++ condition.text false ++ ") \x7b"⟩ ::
        (Stmt.linesOfAll (depth + 1) body ++ [⟨depth, "\x7d"⟩])
  | .declare type name initial =>
      [⟨depth, "final " ++ type ++ " " ++ name ++ " = " ++ initial.text false ++ ";"⟩]
  | .result value => [⟨depth, "return " ++ value.text false ++ ";"⟩]

/-- The lines of the statements of a list at the given depth. -/
def Stmt.linesOfAll (depth : Nat) : List Stmt → List CodeLine
  | [] => []
  | first :: rest => first.lines depth ++ Stmt.linesOfAll depth rest

end

namespace Method

/-- The line that opens the body of the method. -/
def headText (method : Method) : String :=
  "public " ++ method.returnType ++ " " ++ method.name ++ "(" ++
    Text.joinWith ", " (method.parameters.map fun parameter =>
      parameter.type ++ " " ++ parameter.name) ++ ") \x7b"

/-- The lines of the method: its annotations, its head, its body and the closing brace. -/
def lines (method : Method) : List CodeLine :=
  method.annotations.map (fun annotation => ⟨0, "@" ++ annotation⟩) ++
    ⟨0, method.headText⟩ :: (Stmt.linesOfAll 1 method.body ++ [⟨0, "\x7d"⟩])

/-- The text of the method at the given depth. -/
def text (method : Method) (depth : Nat) : String :=
  Text.concat (method.lines.map (CodeLine.layout depth))

end Method

end ValueMethods
