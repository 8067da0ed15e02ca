import ValueMethods.Text.Width

/-!
# Tables

Tables with a header, drawn with lines.  A column is as wide as its widest line, a cell may have
several lines, and a row with too few cells is filled up with blank ones.
-/

namespace ValueMethods

/-- A table of texts. -/
structure Table where
  /-- The header, one cell for each column. -/
  header : List String
  /-- The rows. -/
  rows : List (List String)
  deriving DecidableEq

/-- A horizontal line: its left end, its fill, its crossings and its right end. -/
structure Rule where
  /-- The left end. -/
  left : String
  /-- What fills the line. -/
  fill : String
  /-- Where the line meets the one between two columns. -/
  crossing : String
  /-- The right end. -/
  right : String
  deriving DecidableEq

/-- The lines that a table is drawn with. -/
structure TableStyle where
  /-- The line above the header. -/
  top : Rule
  /-- The line below the header. -/
  underHeader : Rule
  /-- The line between rows, if there is one. -/
  between : Option Rule
  /-- The line below the last row. -/
  bottom : Rule
  /-- The vertical line at both sides. -/
  side : String
  /-- The vertical line between columns. -/
  divider : String
  deriving DecidableEq

namespace TableStyle

/-- Drawn with line characters, without lines between rows. -/
def boxed : TableStyle where
  top := ⟨"┌", "─", "┬", "┐"⟩
  underHeader := ⟨"╞", "═", "╪", "╡"⟩
  between := none
  bottom := ⟨"└", "─", "┴", "┘"⟩
  side := "│"
  divider := "┆"

/-- Drawn with ASCII characters, with lines between rows. -/
def ascii : TableStyle where
  top := ⟨"+", "-", "+", "+"⟩
  underHeader := ⟨"+", "=", "=", "+"⟩
  between := some ⟨"|", "-", "+", "|"⟩
  bottom := ⟨"+", "-", "+", "+"⟩
  side := "|"
  divider := "|"

end TableStyle

namespace Table

/-- The lines of a cell. -/
def cellLines (cell : String) : List String :=
  Text.pieces '\n' cell

/-- The width of a cell. -/
def cellWidth (cell : String) : Nat :=
  ((cellLines cell).map Text.width).foldl max 0

/-- The width of a column. -/
def columnWidth (table : Table) (column : Nat) : Nat :=
  ((table.header :: table.rows).map fun row => cellWidth (row.getD column "")).foldl max 0

/-- The widths of all columns. -/
def widths (table : Table) : List Nat :=
  (List.range table.header.length).map table.columnWidth

/-- A horizontal line. -/
def ruleText (widths : List Nat) (rule : Rule) : String :=
  rule.left ++
    Text.joinWith rule.crossing (widths.map fun width => Text.repeated (width + 2) rule.fill) ++
    rule.right

/-- The number of lines of a row. -/
def rowHeight (row : List String) : Nat :=
  (row.map fun cell => (cellLines cell).length).foldl max 1

/-- One line of a row. -/
def lineText (style : TableStyle) (widths : List Nat) (row : List String) (line : Nat) : String :=
  let cells := (List.range widths.length).map fun column =>
    " " ++ Text.padTo (widths.getD column 0) ((cellLines (row.getD column "")).getD line "") ++ " "
  style.side ++ Text.joinWith style.divider cells ++ style.side

/-- The lines of a row. -/
def rowLines (style : TableStyle) (widths : List Nat) (row : List String) : List String :=
  (List.range (rowHeight row)).map (lineText style widths row)

/-- The lines of rows, with lines between them if the style has such. -/
def bodyLines (style : TableStyle) (widths : List Nat) : List (List String) → List String
  | [] => []
  | [row] => rowLines style widths row
  | row :: next :: rest =>
      rowLines style widths row ++ (style.between.map (ruleText widths)).toList ++
        bodyLines style widths (next :: rest)

/-- The table as text, without a line end after the last line. -/
def text (style : TableStyle) (table : Table) : String :=
  let widths := table.widths
  Text.joinWith "\n"
    ([ruleText widths style.top] ++ rowLines style widths table.header ++
      [ruleText widths style.underHeader] ++ bodyLines style widths table.rows ++
      [ruleText widths style.bottom])

end Table

end ValueMethods
