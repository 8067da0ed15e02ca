import ValueMethods.Text.Digits
import ValueMethods.Text.Split

/-!
# Quoted text

Text between double quotes with everything escaped that could not be told apart on a screen:
controls, characters without a printed form, and marks that would combine with the quote.
-/

namespace ValueMethods
namespace Text

/-- Whether a code point is one of the voiced sound marks of halfwidth katakana, which extend the
character before them and still stand in a place of their own. -/
def isSoundMark (codePoint : Nat) : Bool :=
  inRanges [(0xFF9E, 0xFF9F)] codePoint

/-- Whether a character can be seen between quotes for what it is. -/
def isVisible (c : Char) : Bool :=
  isPrintable c && !isIgnorable c && (!isExtending c || isSoundMark c.toNat)

/-- The text of a character between double quotes. -/
def quotedChar (c : Char) : List Char :=
  if c = '\x00' then ['\\', '0']
  else if c = '\t' then ['\\', 't']
  else if c = '\r' then ['\\', 'r']
  else if c = '\n' then ['\\', 'n']
  else if c = '\\' then ['\\', '\\']
  else if c = '"' then ['\\', '"']
  else if isVisible c then [c]
  else ['\\', 'u', '{'] ++ hexDigits c.toNat ++ ['}']

/-- A text between double quotes. -/
def quoted (text : String) : String :=
  "\"" ++ String.ofList (text.toList.flatMap quotedChar) ++ "\""

/-- A list of quoted texts in brackets. -/
def quotedList (texts : List String) : String :=
  "[" ++ joinWith ", " (texts.map quoted) ++ "]"

end Text
end ValueMethods
