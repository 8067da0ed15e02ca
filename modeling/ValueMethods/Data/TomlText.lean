import ValueMethods.Text.Digits
import ValueMethods.Text.Split

/-!
# TOML text

Writing strings as TOML.  A string is put between double quotes if nothing in it has to be escaped,
else between single quotes if that is possible, and else over several lines; only a string that
fits none of these is escaped.
-/

namespace ValueMethods
namespace Toml

/-- The length of the longest row of a character. -/
def longestRow (c : Char) (text : List Char) : Nat :=
  (text.foldl
    (fun (state : Nat × Nat) next =>
      if next = c then (state.1 + 1, max state.2 (state.1 + 1)) else (0, state.2))
    (0, 0)).2

/-- Whether a character can only be written as an escape: a control other than tab and line
feed. -/
def needsCode (c : Char) : Bool :=
  c ≠ '\t' && c ≠ '\n' && (c.toNat < 0x20 || c.toNat = 0x7F)

/-- The text of a character that is escaped. -/
def escapedChar (c : Char) : List Char :=
  if c = '\x08' then ['\\', 'b']
  else if c = '\t' then ['\\', 't']
  else if c = '\n' then ['\\', 'n']
  else if c = '\x0c' then ['\\', 'f']
  else if c = '\r' then ['\\', 'r']
  else if c = '"' then ['\\', '"']
  else if c = '\\' then ['\\', '\\']
  else if c.toNat < 0x20 || c.toNat = 0x7F then
    let digits := (Text.hexDigits c.toNat).map Char.toUpper
    ['\\', 'u'] ++ List.replicate (4 - digits.length) '0' ++ digits
  else [c]

/-- A text with escapes.  Over several lines, line feeds and rows of up to two double quotes stand
for themselves. -/
def escapedText (manyLines : Bool) (quotes : Nat) : List Char → List Char
  | [] => []
  | c :: rest =>
      if c = '"' then
        if manyLines && quotes < 2 then c :: escapedText manyLines (quotes + 1) rest
        else escapedChar c ++ escapedText manyLines 0 rest
      else if c = '\n' && manyLines then
        c :: escapedText manyLines 0 rest
      else
        escapedChar c ++ escapedText manyLines 0 rest

/-- A string as TOML. -/
def stringText (text : String) : String :=
  let chars := text.toList
  let newline := chars.contains '\n'
  let codes := chars.any needsCode
  let backslash := chars.contains '\\'
  let double := longestRow '"' chars
  let single := longestRow '\'' chars
  let start := if newline then "\n" else ""
  if !codes && !backslash && double = 0 && !newline then
    "\"" ++ String.ofList (escapedText false 0 chars) ++ "\""
  else if !codes && single = 0 && !newline then
    "'" ++ text ++ "'"
  else if !codes && !backslash && double ≤ 2 then
    "\"\"\"" ++ start ++ String.ofList (escapedText true 0 chars) ++ "\"\"\""
  else if !codes && single ≤ 2 then
    "'''" ++ start ++ text ++ "'''"
  else if newline then
    "\"\"\"" ++ start ++ String.ofList (escapedText true 0 chars) ++ "\"\"\""
  else
    "\"" ++ String.ofList (escapedText false 0 chars) ++ "\""

/-- A truth value as TOML. -/
def boolText : Bool → String
  | true => "true"
  | false => "false"

/-- A list of strings as TOML: on one line if it has at most one item, else one item a line. -/
def stringListText (items : List String) : String :=
  match items with
  | [] => "[]"
  | [item] => "[" ++ stringText item ++ "]"
  | _ =>
      "[\n" ++ Text.concat (items.map fun item => "    " ++ stringText item ++ ",\n") ++ "]"

end Toml
end ValueMethods
