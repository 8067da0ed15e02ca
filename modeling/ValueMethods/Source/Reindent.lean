import ValueMethods.Java.CodeText

/-!
# Moving source text to another margin

A block of source is cut into lines, blanks at their ends are dropped, and the margin all lines
have in common is replaced by a new one, so that the lines keep their places relative to each
other.  The margin is measured in bytes of the encoded text.
-/

namespace ValueMethods
namespace Source

/-- The text without line feeds at its ends. -/
def dropOuterLineFeeds (text : List Char) : List Char :=
  ((text.dropWhile (· = '\n')).reverse.dropWhile (· = '\n')).reverse

/-- The lines of a block without blanks at their ends.  A line feed that ends the block does not
start another line. -/
def blockLines (text : List Char) : List (List Char) :=
  match dropOuterLineFeeds text with
  | [] => []
  | first :: rest => (Text.splitOn '\n' (first :: rest)).map Text.trimRight

/-- The number of bytes of a text. -/
def byteLength (text : List Char) : Nat :=
  text.foldr (fun c bytes => c.utf8Size + bytes) 0

/-- The number of bytes of blanks in front of a line. -/
def indentBytes (line : List Char) : Nat :=
  byteLength (line.takeWhile Text.isBlank)

/-- The smallest indentation of the lines that are not empty. -/
def commonMargin (lines : List (List Char)) : Nat :=
  (((lines.filter fun line => !line.isEmpty).map indentBytes).min?).getD 0

/-- The line after its first `count` bytes, or nothing if that falls inside a character. -/
def dropBytes? : Nat → List Char → Option (List Char)
  | 0, line => some line
  | _ + 1, [] => none
  | count + 1, c :: rest =>
      if c.utf8Size ≤ count + 1 then dropBytes? (count + 1 - c.utf8Size) rest else none
termination_by _ line => line.length

/-- The line without the margin; where the margin falls inside a character, without any blanks in
front. -/
def withoutMargin (margin : Nat) (line : List Char) : List Char :=
  (dropBytes? margin line).getD (Text.trimLeft line)

/-- One line at a new margin.  An empty line stays empty. -/
def placedLine (depth margin : Nat) (line : List Char) : String :=
  if line.isEmpty then "\n"
  else indentation depth ++ String.ofList (withoutMargin margin line) ++ "\n"

/-- A block of source moved to the given depth. -/
def reindent (depth : Nat) (text : String) : String :=
  let lines := blockLines text.toList
  Text.concat (lines.map (placedLine depth (commonMargin lines)))

end Source
end ValueMethods
