import ValueMethods.Data.Tree
import ValueMethods.Text.Decimal
import ValueMethods.Text.Digits

/-!
# Reading JSON

From JSON text to a data tree.  Reading never fails as a whole: where the text is not well formed
the tree says so, and everything read before that stays.  Escapes may denote halves of characters;
a string with a half that has no partner is well formed and stands for no text, and so is a number
that is too large.
-/

namespace ValueMethods
namespace Json

/-! ## Blanks and literals -/

/-- Whether a character may stand between tokens. -/
def isSpace (c : Char) : Bool :=
  c = ' ' || c = '\n' || c = '\t' || c = '\r'

/-- The text without blanks in front. -/
def skipSpace (text : List Char) : List Char :=
  text.dropWhile isSpace

/-- A literal that must come next, and what it stands for. -/
def literal (word : String) (value : DataTree) (text : List Char) :
    DataTree × Option (List Char) :=
  match Text.dropPrefix? word.toList text with
  | some rest => (value, some rest)
  | none => (.malformed, none)

/-! ## Strings -/

/-- A part of a string: a character, or a code unit given by its number. -/
inductive Piece where
  /-- A character. -/
  | char (c : Char)
  /-- A code unit. -/
  | unit (value : Nat)
  deriving DecidableEq

/-- What a backslash and a letter stand for. -/
def shortEscape? (c : Char) : Option Char :=
  if c = '"' then some '"'
  else if c = '\\' then some '\\'
  else if c = '/' then some '/'
  else if c = 'b' then some '\x08'
  else if c = 'f' then some '\x0c'
  else if c = 'n' then some '\n'
  else if c = 'r' then some '\r'
  else if c = 't' then some '\t'
  else none

/-- The pieces of a string up to its closing quote, and the text after that. -/
def readPieces : List Char → Option (List Piece × List Char)
  | [] => none
  | '"' :: rest => some ([], rest)
  | '\\' :: 'u' :: a :: b :: c :: d :: rest =>
      match Text.number? 16 [a, b, c, d] with
      | some value => (readPieces rest).map fun (pieces, after) => (.unit value :: pieces, after)
      | none => none
  | '\\' :: letter :: rest =>
      match shortEscape? letter with
      | some c => (readPieces rest).map fun (pieces, after) => (.char c :: pieces, after)
      | none => none
  | c :: rest =>
      if c.toNat < 0x20 || c = '\\' then none
      else (readPieces rest).map fun (pieces, after) => (.char c :: pieces, after)

/-- Whether a code unit is the first half of a character. -/
def isHighHalf (value : Nat) : Bool :=
  decide (0xD800 ≤ value) && decide (value ≤ 0xDBFF)

/-- Whether a code unit is the second half of a character. -/
def isLowHalf (value : Nat) : Bool :=
  decide (0xDC00 ≤ value) && decide (value ≤ 0xDFFF)

/-- The character of two halves. -/
def joinHalves (high low : Nat) : Char :=
  Char.ofNat (0x10000 + (high - 0xD800) * 0x400 + (low - 0xDC00))

/-- The characters that pieces stand for, if every half has its partner.  The first argument is a
first half whose partner must come next. -/
def joinPieces : Option Nat → List Piece → Option (List Char)
  | none, [] => some []
  | some _, [] => none
  | none, .char c :: rest => (joinPieces none rest).map (c :: ·)
  | some _, .char _ :: _ => none
  | none, .unit value :: rest =>
      if isHighHalf value then joinPieces (some value) rest
      else if isLowHalf value then none
      else (joinPieces none rest).map (Char.ofNat value :: ·)
  | some high, .unit value :: rest =>
      if isLowHalf value then (joinPieces none rest).map (joinHalves high value :: ·) else none

/-- A string after its opening quote: the text if it stands for one, and what comes after it. -/
def readString (text : List Char) : Option (Option String × List Char) :=
  (readPieces text).map fun (pieces, rest) => ((joinPieces none pieces).map String.ofList, rest)

/-! ## Numbers -/

/-- A number as it is written. -/
structure NumberText where
  /-- Whether there is a minus sign. -/
  negative : Bool
  /-- The digits in front of the point. -/
  whole : List Char
  /-- The digits after the point, if there is one. -/
  fraction : Option (List Char)
  /-- The exponent, if there is one: whether it is negative, and its digits. -/
  exponent : Option (Bool × List Char)
  deriving DecidableEq

/-- The digits in front of a text, and the rest. -/
def spanDigits (text : List Char) : List Char × List Char :=
  (text.takeWhile Char.isDigit, text.dropWhile Char.isDigit)

/-- The exponent in front of a text, if there is one; nothing if it is broken off. -/
def readExponent (text : List Char) : Option (Option (Bool × List Char) × List Char) :=
  match text with
  | c :: rest =>
      if c = 'e' || c = 'E' then
        let (negative, unsigned) :=
          match rest with
          | '-' :: more => (true, more)
          | '+' :: more => (false, more)
          | more => (false, more)
        match spanDigits unsigned with
        | ([], _) => none
        | (digits, after) => some (some (negative, digits), after)
      else
        some (none, c :: rest)
  | [] => some (none, [])

/-- The fraction in front of a text, if there is one; nothing if it is broken off. -/
def readFraction (text : List Char) : Option (Option (List Char) × List Char) :=
  match text with
  | '.' :: rest =>
      match spanDigits rest with
      | ([], _) => none
      | (digits, after) => some (some digits, after)
  | other => some (none, other)

/-- The digits in front of the point: a zero alone, or digits that do not start with one. -/
def readWhole (text : List Char) : Option (List Char × List Char) :=
  match spanDigits text with
  | ([], _) => none
  | (['0'], rest) => some (['0'], rest)
  | ('0' :: _, _) => none
  | (digits, rest) => some (digits, rest)

/-- The number in front of a text. -/
def readNumberText (text : List Char) : Option (NumberText × List Char) :=
  let (negative, unsigned) :=
    match text with
    | '-' :: rest => (true, rest)
    | other => (false, other)
  match readWhole unsigned with
  | none => none
  | some (whole, afterWhole) =>
      match readFraction afterWhole with
      | none => none
      | some (fraction, afterFraction) =>
          match readExponent afterFraction with
          | none => none
          | some (exponent, rest) => some (⟨negative, whole, fraction, exponent⟩, rest)

/-- The greatest unsigned 64-bit number. -/
def maxWord : Nat := Nat.pow 2 64 - 1

/-- Takes digits into a significand as long as it fits into 64 bits; the significand and how many
digits were taken. -/
def takeDigits (significand taken : Nat) : List Char → Nat × Nat
  | [] => (significand, taken)
  | digit :: rest =>
      let next := significand * 10 + (digit.toNat - '0'.toNat)
      if next ≤ maxWord then takeDigits next (taken + 1) rest else (significand, taken)

/-- A significand times a power of ten, computed by one rounded multiplication or division, after
divisions by the greatest power of ten that is a number where the power is out of range. -/
def scaled (significand : Nat) : Nat → Float → Int → Option Float
  | 0, value, _ => some value
  | more + 1, value, exponent =>
      if exponent.natAbs ≤ 308 then
        let power := Float.ofScientific 1 false exponent.natAbs
        if 0 ≤ exponent then
          let product := value * power
          if product.isInf then none else some product
        else
          some (value / power)
      else if significand = 0 then
        some value
      else if 0 ≤ exponent then
        none
      else
        scaled significand more (value / Float.ofScientific 1 false 308) (exponent + 308)

/-- The floating point number of a significand and an exponent, if it is in range. -/
def floatOf (negative : Bool) (significand : Nat) (exponent : Int) : Option Float :=
  (scaled significand 4 (Float.ofNat significand) exponent).map fun value =>
    if negative then -value else value

/-- The text of a floating point number in messages. -/
def shownFloat (value : Float) : String :=
  Decimal.text (-4) 16 (Decimal.ofFloat value)

/-- The tree of a floating point number; a number out of range is unreadable. -/
def floatTree (negative : Bool) (significand : Nat) (exponent : Int) : DataTree :=
  match floatOf negative significand exponent with
  | some value => .decimal (shownFloat value)
  | none => .unreadable

namespace NumberText

/-- The exponent of a number as it is written. -/
def exponentValue (number : NumberText) : Int :=
  match number.exponent with
  | some (true, digits) => -(Text.decimalValue digits : Int)
  | some (false, digits) => Text.decimalValue digits
  | none => 0

/-- What a number stands for.  Without a fraction and an exponent it is an integer if it fits into
64 bits; a minus sign makes it signed, and there is no integer minus zero. -/
def tree (number : NumberText) : DataTree :=
  let (significand, taken) := takeDigits 0 0 number.whole
  let dropped : Nat := number.whole.length - taken
  match number.fraction with
  | none =>
      if number.exponent.isNone && dropped = 0 then
        if !number.negative then .integer significand
        else if 0 < significand && significand ≤ Nat.pow 2 63 then .integer (-(significand : Int))
        else floatTree true significand 0
      else
        floatTree number.negative significand ((dropped : Int) + number.exponentValue)
  | some fraction =>
      let (full, used) := takeDigits significand 0 fraction
      floatTree number.negative full ((dropped : Int) - used + number.exponentValue)

end NumberText

/-- A number in front of a text. -/
def readNumber (text : List Char) : DataTree × Option (List Char) :=
  match readNumberText text with
  | some (number, rest) => (number.tree, some rest)
  | none => (.malformed, none)

/-! ## Values -/

mutual

/-- The value in front of a text, and what comes after it if reading goes on. -/
def readValue : Nat → List Char → DataTree × Option (List Char)
  | 0, _ => (.malformed, none)
  | limit + 1, text =>
      match skipSpace text with
      | [] => (.malformed, none)
      | '"' :: rest =>
          match readString rest with
          | some (some value, after) => (.text value, some after)
          | some (none, after) => (.unreadable, some after)
          | none => (.malformed, none)
      | '[' :: rest =>
          match skipSpace rest with
          | ']' :: after => (.list [], some after)
          | _ =>
              let (items, after) := readItems limit rest
              (.list items, after)
      | '{' :: rest =>
          match skipSpace rest with
          | '}' :: after => (.map [], some after)
          | _ =>
              let (entries, after) := readEntries limit rest
              (.map entries, after)
      | 'n' :: rest => literal "null" .null ('n' :: rest)
      | 't' :: rest => literal "true" (.bool true) ('t' :: rest)
      | 'f' :: rest => literal "false" (.bool false) ('f' :: rest)
      | c :: rest =>
          if c = '-' || c.isDigit then readNumber (c :: rest) else (.malformed, none)

/-- The items of a list, from the value of the first one to the closing bracket. -/
def readItems : Nat → List Char → List DataTree × Option (List Char)
  | 0, _ => ([.malformed], none)
  | limit + 1, text =>
      match readValue limit text with
      | (item, none) => ([item], none)
      | (item, some rest) =>
          match skipSpace rest with
          | ']' :: after => ([item], some after)
          | ',' :: more =>
              let (items, after) := readItems limit more
              (item :: items, after)
          | _ => ([item, .malformed], none)

/-- The entries of a map, from the key of the first one to the closing brace. -/
def readEntries : Nat → List Char → List (String × DataTree) × Option (List Char)
  | 0, _ => ([("", .malformed)], none)
  | limit + 1, text =>
      match skipSpace text with
      | '"' :: keyText =>
          match readString keyText with
          | none => ([("", .malformed)], none)
          | some (key, afterKey) =>
              let (value, afterValue) :=
                match skipSpace afterKey with
                | ':' :: valueText => readValue limit valueText
                | _ => (.malformed, none)
              let entry : String × DataTree :=
                match key with
                | some name => (name, value)
                | none => ("", .underUnreadableKey value)
              match afterValue with
              | none => ([entry], none)
              | some rest =>
                  match skipSpace rest with
                  | '}' :: after => ([entry], some after)
                  | ',' :: more =>
                      let (entries, after) := readEntries limit more
                      (entry :: entries, after)
                  | _ => ([entry, ("", .malformed)], none)
      | _ => ([("", .malformed)], none)

end

/-- A document: its value, and whether nothing but blanks comes after it. -/
structure Parsed where
  /-- The value. -/
  tree : DataTree
  /-- Whether the document ends after the value. -/
  ended : Bool

/-- Reads a document.  Every step of reading takes at least one character, so the length of the
text bounds the number of steps inside each other. -/
def read (text : String) : Parsed :=
  match readValue (2 * text.length + 2) text.toList with
  | (tree, none) => ⟨tree, true⟩
  | (tree, some rest) => ⟨tree, (skipSpace rest).isEmpty⟩

end Json
end ValueMethods
