import ValueMethods.Data.Tree
import ValueMethods.Text.Digits

/-!
# JSON text

Writing a data tree as JSON, either without any blanks or spread over lines with two blanks for
each level.  Only what must be escaped is escaped: quotes, backslashes and controls.
-/

namespace ValueMethods
namespace Json

/-- The four hexadecimal digits of a number below 65536. -/
def fourDigits (value : Nat) : List Char :=
  let digits := Text.hexDigits value
  List.replicate (4 - digits.length) '0' ++ digits

/-- The text of a character inside a string. -/
def stringChar (c : Char) : List Char :=
  if c = '"' then ['\\', '"']
  else if c = '\\' then ['\\', '\\']
  else if c = '\n' then ['\\', 'n']
  else if c = '\r' then ['\\', 'r']
  else if c = '\t' then ['\\', 't']
  else if c = '\x08' then ['\\', 'b']
  else if c = '\x0c' then ['\\', 'f']
  else if c.toNat < 0x20 then ['\\', 'u'] ++ fourDigits c.toNat
  else [c]

/-- The characters of a string with its quotes. -/
def stringChars (text : List Char) : List Char :=
  '"' :: (text.flatMap stringChar ++ ['"'])

/-- A string with its quotes. -/
def stringText (text : String) : String :=
  String.ofList (stringChars text.toList)

/-! ## Without blanks -/

mutual

/-- A tree without blanks. -/
def compactChars : DataTree → List Char
  | .null => ['n', 'u', 'l', 'l']
  | .bool true => ['t', 'r', 'u', 'e']
  | .bool false => ['f', 'a', 'l', 's', 'e']
  | .integer value => (toString value).toList
  | .decimal shown => shown.toList
  | .text value => stringChars value.toList
  | .list items => '[' :: compactItems items
  | .map entries => '{' :: compactEntries entries
  | .unreadable => []
  | .underUnreadableKey _ => []
  | .malformed => []

/-- The items of a list up to its closing bracket. -/
def compactItems : List DataTree → List Char
  | [] => [']']
  | first :: rest => compactChars first ++ compactMoreItems rest

/-- The items after the first, up to the closing bracket. -/
def compactMoreItems : List DataTree → List Char
  | [] => [']']
  | first :: rest => ',' :: compactChars first ++ compactMoreItems rest

/-- The entries of a map up to its closing brace. -/
def compactEntries : List (String × DataTree) → List Char
  | [] => ['}']
  | first :: rest => compactEntry first ++ compactMoreEntries rest

/-- The entries after the first, up to the closing brace. -/
def compactMoreEntries : List (String × DataTree) → List Char
  | [] => ['}']
  | first :: rest => ',' :: compactEntry first ++ compactMoreEntries rest

/-- One entry of a map. -/
def compactEntry : String × DataTree → List Char
  | (key, value) => stringChars key.toList ++ ':' :: compactChars value

end

/-- A tree as text without blanks. -/
def compact (tree : DataTree) : String :=
  String.ofList (compactChars tree)

/-! ## Spread over lines -/

/-- A new line at a level. -/
def lineBreak (level : Nat) : String :=
  "\n" ++ Text.repeated level "  "

mutual

/-- A tree spread over lines, its first line without indentation. -/
def pretty (level : Nat) : DataTree → String
  | .list [] => "[]"
  | .list (first :: rest) =>
      "[" ++ lineBreak (level + 1) ++ pretty (level + 1) first ++
        prettyItems (level + 1) rest ++ lineBreak level ++ "]"
  | .map [] => "\x7b\x7d"
  | .map (first :: rest) =>
      "\x7b" ++ lineBreak (level + 1) ++ prettyEntry (level + 1) first ++
        prettyEntries (level + 1) rest ++ lineBreak level ++ "\x7d"
  | scalar => compact scalar

/-- The items after the first, each on a line of its own. -/
def prettyItems (level : Nat) : List DataTree → String
  | [] => ""
  | first :: rest => "," ++ lineBreak level ++ pretty level first ++ prettyItems level rest

/-- The entries after the first, each on a line of its own. -/
def prettyEntries (level : Nat) : List (String × DataTree) → String
  | [] => ""
  | first :: rest =>
      "," ++ lineBreak level ++ prettyEntry level first ++ prettyEntries level rest

/-- One entry of a map. -/
def prettyEntry (level : Nat) : String × DataTree → String
  | (key, value) => stringText key ++ ": " ++ pretty level value

end

end Json
end ValueMethods
