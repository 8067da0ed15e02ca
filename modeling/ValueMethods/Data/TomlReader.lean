import ValueMethods.Data.TomlTable
import ValueMethods.Text.Decimal
import ValueMethods.Text.Digits

/-!
# Reading TOML

From TOML text to a data tree, or nothing if the text is not well formed.  Every reader takes what
it reads from the front of a text and gives back the rest.  Dates are checked and kept as maps
without entries, since nothing looks inside them.
-/

namespace ValueMethods
namespace Toml

/-! ## Blanks, lines and comments -/

/-- Whether a character is a blank inside a line. -/
def isSpace (c : Char) : Bool :=
  c = ' ' || c = '\t'

/-- The text without blanks in front. -/
def skipSpace (text : List Char) : List Char :=
  text.dropWhile isSpace

/-- Whether a character may stand in a comment or between single quotes: no control but the tab. -/
def isPlain (c : Char) : Bool :=
  c = '\t' || (0x20 ≤ c.toNat && c.toNat ≠ 0x7F)

/-- The text after a line end in front of it. -/
def lineEnd? : List Char → Option (List Char)
  | '\n' :: rest => some rest
  | '\r' :: '\n' :: rest => some rest
  | _ => none

/-- The text after a comment in front of it, if there is one. -/
def skipComment : List Char → List Char
  | '#' :: rest => rest.dropWhile isPlain
  | text => text

/-- The text after the rest of a line: blanks, a comment, and the end of the line or of the whole
text. -/
def finishLine? (text : List Char) : Option (List Char) :=
  match skipComment (skipSpace text) with
  | [] => some []
  | rest => lineEnd? rest

/-- The text after blanks, comments and line ends. -/
def skipLines? : Nat → List Char → Option (List Char)
  | 0, _ => none
  | limit + 1, text =>
      match skipSpace text with
      | '#' :: rest => (lineEnd? (rest.dropWhile isPlain)).bind (skipLines? limit)
      | '\n' :: rest => skipLines? limit rest
      | '\r' :: rest => (lineEnd? ('\r' :: rest)).bind (skipLines? limit)
      | rest => some rest

/-! ## Strings -/

/-- Whether a character may stand between double quotes as it is. -/
def isBasic (c : Char) : Bool :=
  isPlain c && c ≠ '"' && c ≠ '\\'

/-- The character with a number given by some hexadecimal digits, and the text after them. -/
def readCode? (count : Nat) (text : List Char) : Option (Char × List Char) :=
  let digits := text.take count
  if digits.length = count then
    match Text.number? 16 digits with
    | some value => if value.isValidChar then some (Char.ofNat value, text.drop count) else none
    | none => none
  else
    none

/-- The character that an escape stands for, without its backslash, and the text after it. -/
def readEscape? : List Char → Option (Char × List Char)
  | 'b' :: rest => some ('\x08', rest)
  | 'f' :: rest => some ('\x0c', rest)
  | 'n' :: rest => some ('\n', rest)
  | 'r' :: rest => some ('\r', rest)
  | 't' :: rest => some ('\t', rest)
  | '\\' :: rest => some ('\\', rest)
  | '"' :: rest => some ('"', rest)
  | 'u' :: rest => readCode? 4 rest
  | 'U' :: rest => readCode? 8 rest
  | _ => none

/-- The characters of a one-line string up to its closing double quote. -/
def readBasic? : Nat → List Char → Option (List Char × List Char)
  | 0, _ => none
  | _ + 1, [] => none
  | limit + 1, c :: rest =>
      if c = '"' then
        some ([], rest)
      else if c = '\\' then
        match readEscape? rest with
        | some (escaped, after) =>
            (readBasic? limit after).map fun (content, final) => (escaped :: content, final)
        | none => none
      else if isBasic c then
        (readBasic? limit rest).map fun (content, final) => (c :: content, final)
      else
        none

/-- The characters of a one-line string up to its closing single quote. -/
def readLiteral? (text : List Char) : Option (List Char × List Char) :=
  let content := text.takeWhile fun c => isPlain c && c ≠ '\''
  match text.drop content.length with
  | '\'' :: rest => some (content, rest)
  | _ => none

/-- How a row of quotes in a many-line string ends: how many of them belong to the string, and the
text after the closing ones.  One or two quotes do not close the string, and up to two more than
the three that close it belong to it. -/
def closingQuotes? (quote : Char) (text : List Char) : Option (Nat × List Char) :=
  let count := (text.takeWhile (· = quote)).length
  if count < 3 then none
  else
    let kept := min (count - 3) 2
    some (kept, text.drop (kept + 3))

/-- The text after the blanks and line ends that a backslash at the end of a line removes, if it
stands there. -/
def joinedLine? (text : List Char) : Option (List Char) :=
  (lineEnd? (skipSpace text)).map skipBlankLines
where
  skipBlankLines (text : List Char) : List Char :=
    skipAll text.length text
  skipAll : Nat → List Char → List Char
    | 0, text => text
    | limit + 1, text =>
        match skipSpace text with
        | '\n' :: rest => skipAll limit rest
        | '\r' :: '\n' :: rest => skipAll limit rest
        | rest => rest

/-- The characters of a many-line string up to its closing double quotes. -/
def readLongBasic? : Nat → List Char → Option (List Char × List Char)
  | 0, _ => none
  | _ + 1, [] => none
  | limit + 1, c :: rest =>
      let go (content : List Char) (text : List Char) : Option (List Char × List Char) :=
        (readLongBasic? limit text).map fun (more, final) => (content ++ more, final)
      if c = '"' then
        match closingQuotes? '"' (c :: rest) with
        | some (kept, after) => some (List.replicate kept '"', after)
        | none => go ['"'] rest
      else if c = '\\' then
        match joinedLine? rest with
        | some after => go [] after
        | none =>
            match readEscape? rest with
            | some (escaped, after) => go [escaped] after
            | none => none
      else if isBasic c then
        go [c] rest
      else
        match lineEnd? (c :: rest) with
        | some after => go ['\n'] after
        | none => none

/-- The characters of a many-line string up to its closing single quotes. -/
def readLongLiteral? : Nat → List Char → Option (List Char × List Char)
  | 0, _ => none
  | _ + 1, [] => none
  | limit + 1, c :: rest =>
      let go (content : List Char) (text : List Char) : Option (List Char × List Char) :=
        (readLongLiteral? limit text).map fun (more, final) => (content ++ more, final)
      if c = '\'' then
        match closingQuotes? '\'' (c :: rest) with
        | some (kept, after) => some (List.replicate kept '\'', after)
        | none => go ['\''] rest
      else if isPlain c then
        go [c] rest
      else
        match lineEnd? (c :: rest) with
        | some after => go ['\n'] after
        | none => none

/-- The text without a line end in front. -/
def dropLineEnd (text : List Char) : List Char :=
  (lineEnd? text).getD text

/-- A string in front of a text. -/
def readString? (text : List Char) : Option (List Char × List Char) :=
  match text with
  | '"' :: '"' :: '"' :: rest => readLongBasic? (rest.length + 1) (dropLineEnd rest)
  | '"' :: rest => readBasic? (rest.length + 1) rest
  | '\'' :: '\'' :: '\'' :: rest => readLongLiteral? (rest.length + 1) (dropLineEnd rest)
  | '\'' :: rest => readLiteral? rest
  | _ => none

/-! ## Keys -/

/-- How many keys or values may be nested. -/
def nestingLimit : Nat := 80

/-- Whether a character may stand in a key without quotes. -/
def isBare (c : Char) : Bool :=
  c.isAlphanum || c = '_' || c = '-'

/-- A key without dots in front of a text. -/
def readSimpleKey? (text : List Char) : Option (String × List Char) :=
  match text with
  | '"' :: rest =>
      (readBasic? (rest.length + 1) rest).map fun (key, after) => (String.ofList key, after)
  | '\'' :: rest => (readLiteral? rest).map fun (key, after) => (String.ofList key, after)
  | _ =>
      match text.takeWhile isBare with
      | [] => none
      | key => some (String.ofList key, text.dropWhile isBare)

/-- Keys separated by dots, with blanks around each. -/
def readKeys? : Nat → List Char → Option (List String × List Char)
  | 0, _ => none
  | limit + 1, text =>
      match readSimpleKey? (skipSpace text) with
      | none => none
      | some (key, rest) =>
          match skipSpace rest with
          | '.' :: more => (readKeys? limit more).map fun (keys, after) => (key :: keys, after)
          | after => some ([key], after)

/-- A dotted key in front of a text: the keys that lead to the last one, the last one, and the
text after it. -/
def readKey? (text : List Char) : Option (List String × String × List Char) :=
  match readKeys? nestingLimit.pred text with
  | some (keys, rest) => keys.getLast?.map fun key => (keys.dropLast, key, rest)
  | none => none

/-! ## Numbers -/

/-- More digits, each of which may have an underscore in front; nothing if an underscore is not
followed by a digit. -/
def readMoreDigits? : List Char → Option (List Char × List Char)
  | [] => some ([], [])
  | '_' :: digit :: rest =>
      if digit.isDigit then
        (readMoreDigits? rest).map fun (digits, after) => (digit :: digits, after)
      else
        none
  | c :: rest =>
      if c.isDigit then
        (readMoreDigits? rest).map fun (digits, after) => (c :: digits, after)
      else if c = '_' then
        none
      else
        some ([], c :: rest)

/-- One or more digits. -/
def readDigits? : List Char → Option (List Char × List Char)
  | [] => none
  | c :: rest =>
      if c.isDigit then (readMoreDigits? rest).map fun (digits, after) => (c :: digits, after)
      else none

/-- The digits of an integer: a zero alone, or digits that do not start with one. -/
def readWhole? : List Char → Option (List Char × List Char)
  | '0' :: rest => some (['0'], rest)
  | text => readDigits? text

/-- Digits to a base of sixteen or less, each after the first possibly with an underscore in front;
nothing if an underscore is not followed by a digit. -/
def readBased? (base : Nat) : List Char → Option (List Char × List Char)
  | [] => some ([], [])
  | '_' :: digit :: rest =>
      if (Text.number? base [digit]).isSome then
        (readBased? base rest).map fun (digits, after) => (digit :: digits, after)
      else
        none
  | c :: rest =>
      if (Text.number? base [c]).isSome then
        (readBased? base rest).map fun (digits, after) => (c :: digits, after)
      else if c = '_' then
        none
      else
        some ([], c :: rest)

/-- An integer to a base other than ten, after the letter of the base. -/
def readBasedInteger? (base : Nat) (text : List Char) : Option (DataTree × List Char) :=
  match text with
  | [] => none
  | first :: _ =>
      if first = '_' then none
      else
        match readBased? base text with
        | some (digit :: digits, rest) =>
            match Text.number? base (digit :: digits) with
            | some value => if value < Nat.pow 2 63 then some (.integer value, rest) else none
            | none => none
        | _ => none

/-- A sign in front of a text: whether it is a minus, and the text after it. -/
def readSign (text : List Char) : Bool × List Char :=
  match text with
  | '-' :: rest => (true, rest)
  | '+' :: rest => (false, rest)
  | rest => (false, rest)

/-- The text of a floating point number in messages. -/
def shownFloat (value : Decimal.Shown) : String :=
  Decimal.text (-400) 400 value

/-- The nearest floating point number to digits times a power of ten, with its sign; nothing if it
is beyond all numbers above zero. -/
def floatTree? (negative : Bool) (digits : List Char) (exponent : Int) : Option DataTree :=
  let significant := digits.dropWhile (· = '0')
  let magnitude : Float :=
    if significant.isEmpty then 0.0
    else if 400 < (significant.length : Int) + exponent then Float.ofScientific 1 false 400
    else if (significant.length : Int) + exponent < -400 then 0.0
    else Float.ofScientific (Text.decimalValue significant) (decide (exponent < 0)) exponent.natAbs
  if magnitude.isInf && !negative then none
  else some (.decimal (shownFloat (Decimal.ofFloat (if negative then -magnitude else magnitude))))

/-- The exponent in front of a text, zero if there is none; nothing if it is broken off. -/
def readExponent? (text : List Char) : Option (Int × List Char) :=
  match text with
  | c :: rest =>
      if c = 'e' || c = 'E' then
        let (negative, unsigned) := readSign rest
        (readDigits? unsigned).map fun (digits, after) =>
          let size : Int := Text.decimalValue digits
          (if negative then -size else size, after)
      else
        none
  | [] => none

/-- Whether a text goes on with an exponent. -/
def hasExponent (text : List Char) : Bool :=
  text.head? = some 'e' || text.head? = some 'E'

/-- A number to base ten, after its sign. -/
def readDecimal? (negative : Bool) (text : List Char) : Option (DataTree × List Char) :=
  match readWhole? text with
  | none => none
  | some (whole, '.' :: rest) =>
      match readDigits? rest with
      | none => none
      | some (fraction, after) =>
          if hasExponent after then
            match readExponent? after with
            | some (exponent, final) =>
                (floatTree? negative (whole ++ fraction) (exponent - fraction.length)).map
                  (·, final)
            | none => none
          else
            (floatTree? negative (whole ++ fraction) (-(fraction.length : Int))).map (·, after)
  | some (whole, rest) =>
      if hasExponent rest then
        match readExponent? rest with
        | some (exponent, final) => (floatTree? negative whole exponent).map (·, final)
        | none => none
      else
        let size := Text.decimalValue whole
        if negative then
          if size ≤ Nat.pow 2 63 then some (.integer (-(size : Int)), rest) else none
        else
          if size < Nat.pow 2 63 then some (.integer size, rest) else none

/-- A number in front of a text. -/
def readNumber? (text : List Char) : Option (DataTree × List Char) :=
  match text with
  | '0' :: 'x' :: rest => readBasedInteger? 16 rest
  | '0' :: 'o' :: rest => readBasedInteger? 8 rest
  | '0' :: 'b' :: rest => readBasedInteger? 2 rest
  | _ =>
      let (negative, unsigned) := readSign text
      match unsigned with
      | 'i' :: 'n' :: 'f' :: rest =>
          some (.decimal (shownFloat (.infinite negative)), rest)
      | 'n' :: 'a' :: 'n' :: rest => some (.decimal (shownFloat .nan), rest)
      | _ => readDecimal? negative unsigned

/-! ## Dates and times -/

/-- A number of exactly `count` digits, if there are as many in front of a text. -/
def readFixed? (count : Nat) (text : List Char) : Option (Nat × List Char) :=
  let digits := text.take count
  if digits.length = count && digits.all Char.isDigit then
    some (Text.decimalValue digits, text.drop count)
  else
    none

/-- A number of two digits in a range. -/
def readTwo? (least most : Nat) (text : List Char) : Option (Nat × List Char) :=
  match readFixed? 2 text with
  | some (value, rest) => if least ≤ value && value ≤ most then some (value, rest) else none
  | none => none

/-- A character that must come next. -/
def expect? (c : Char) : List Char → Option (List Char)
  | first :: rest => if first = c then some rest else none
  | [] => none

/-- The last day of a month. -/
def lastDay (year month : Nat) : Nat :=
  if month = 2 then
    if year % 4 = 0 && (year % 100 ≠ 0 || year % 400 = 0) then 29 else 28
  else if month = 4 || month = 6 || month = 9 || month = 11 then
    30
  else
    31

/-- What looking for a date or a time gives. -/
inductive Looked where
  /-- There is none. -/
  | other
  /-- There is one that is broken. -/
  | broken
  /-- There is one, and the text goes on like this. -/
  | found (rest : List Char)

/-- The text after a fraction of a second, if there is one. -/
def skipSecondFraction (text : List Char) : List Char :=
  match text with
  | '.' :: c :: rest => if c.isDigit then rest.dropWhile Char.isDigit else text
  | _ => text

/-- Looks for a time of day.  An hour and a colon must be followed by minutes and seconds. -/
def lookForTime (text : List Char) : Looked :=
  match (readTwo? 0 23 text).bind fun (_, rest) => expect? ':' rest with
  | none => .other
  | some afterHour =>
      let rest? := do
        let (_, afterMinute) ← readTwo? 0 59 afterHour
        let second ← expect? ':' afterMinute
        let (_, afterSecond) ← readTwo? 0 60 second
        some (skipSecondFraction afterSecond)
      match rest? with
      | some rest => .found rest
      | none => .broken

/-- Looks for the distance to universal time after a time of day, which may be missing. -/
def lookForOffset (text : List Char) : Looked :=
  match text with
  | 'Z' :: rest => .found rest
  | 'z' :: rest => .found rest
  | c :: rest =>
      if c = '+' || c = '-' then
        let rest? := do
          let (_, afterHour) ← readTwo? 0 23 rest
          let minute ← expect? ':' afterHour
          let (_, after) ← readTwo? 0 59 minute
          some after
        match rest? with
        | some after => .found after
        | none => .broken
      else
        .found (c :: rest)
  | [] => .found []

/-- Looks for a time of day after a date, which may be missing. -/
def lookAfterDate (text : List Char) : Looked :=
  match text with
  | c :: rest =>
      if c = 'T' || c = 't' || c = ' ' then
        match lookForTime rest with
        | .other => .found text
        | .broken => .broken
        | .found after => lookForOffset after
      else
        .found text
  | [] => .found text

/-- Looks for a date or a time.  Four digits and a dash must be followed by month and day. -/
def lookForDate (text : List Char) : Looked :=
  match (readFixed? 4 text).bind fun (year, rest) => (expect? '-' rest).map (year, ·) with
  | none => lookForTime text
  | some (year, afterYear) =>
      let rest? := do
        let (month, afterMonth) ← readTwo? 1 12 afterYear
        let dayText ← expect? '-' afterMonth
        let (day, after) ← readTwo? 1 31 dayText
        if day ≤ lastDay year month then some after else none
      match rest? with
      | some after => lookAfterDate after
      | none => .broken

/-! ## Values -/

/-- A word that must come next, and what it stands for. -/
def readWord? (word : String) (value : DataTree) (text : List Char) :
    Option (DataTree × List Char) :=
  (Text.dropPrefix? word.toList text).map (value, ·)

/-- A date, a time or a number in front of a text. -/
def readDateOrNumber? (text : List Char) : Option (DataTree × List Char) :=
  match lookForDate text with
  | .found rest => some (.map [], rest)
  | .broken => none
  | .other => readNumber? text

mutual

/-- A value in front of a text, inside `depth` lists and maps. -/
def readValue? : Nat → Nat → List Char → Option (DataTree × List Char)
  | 0, _, _ => none
  | _ + 1, _, [] => none
  | limit + 1, depth, c :: rest =>
      if c = '"' || c = '\'' then
        (readString? (c :: rest)).map fun (content, after) => (.text (String.ofList content), after)
      else if c = '[' then
        if depth + 1 < nestingLimit then
          (readItems? limit (depth + 1) rest).map fun (items, after) => (.list items, after)
        else
          none
      else if c = '{' then
        if depth + 1 < nestingLimit then
          match skipSpace rest with
          | '}' :: after => some (.map [], after)
          | _ =>
              (readEntries? limit (depth + 1) .opened rest).map fun (table, after) =>
                (table.tree, after)
        else
          none
      else if c = '+' || c = '-' || c.isDigit then
        readDateOrNumber? (c :: rest)
      else if c = 't' then
        readWord? "true" (.bool true) (c :: rest)
      else if c = 'f' then
        readWord? "false" (.bool false) (c :: rest)
      else if c = 'i' || c = 'n' then
        readNumber? (c :: rest)
      else
        none

/-- The items of a list up to its closing bracket. -/
def readItems? : Nat → Nat → List Char → Option (List DataTree × List Char)
  | 0, _, _ => none
  | limit + 1, depth, text =>
      match skipLines? (text.length + 1) text with
      | none => none
      | some (']' :: after) => some ([], after)
      | some itemText =>
          match readValue? limit depth itemText with
          | none => none
          | some (item, afterItem) =>
              match skipLines? (afterItem.length + 1) afterItem with
              | some (']' :: after) => some ([item], after)
              | some (',' :: more) =>
                  (readItems? limit depth more).map fun (items, after) => (item :: items, after)
              | _ => none

/-- The entries of a map between braces up to the closing one, added to a table. -/
def readEntries? : Nat → Nat → Table → List Char → Option (Table × List Char)
  | 0, _, _, _ => none
  | limit + 1, depth, table, text =>
      match readKey? text with
      | some (path, key, '=' :: valueText) =>
          match readValue? limit depth (skipSpace valueText) with
          | none => none
          | some (value, afterValue) =>
              match addValue path key value table with
              | none => none
              | some extended =>
                  match skipSpace afterValue with
                  | '}' :: after => some (extended, after)
                  | ',' :: more => readEntries? limit depth extended more
                  | _ => none
      | _ => none

end

/-! ## Documents -/

/-- A header after its first bracket, and the document with the table it opens. -/
def readHeader? (builder : Builder) (text : List Char) : Option (Builder × List Char) :=
  match text with
  | '[' :: rest =>
      match readKey? rest with
      | some (parents, key, ']' :: ']' :: after) => do
          let final ← finishLine? after
          let opened ← builder.openArrayTable parents key
          some (opened, final)
      | _ => none
  | _ =>
      match readKey? text with
      | some (parents, key, ']' :: after) => do
          let final ← finishLine? after
          let opened ← builder.openTable parents key
          some (opened, final)
      | _ => none

/-- A line with a key and a value, and the document with that entry. -/
def readLine? (builder : Builder) (text : List Char) : Option (Builder × List Char) :=
  match readKey? text with
  | some (path, key, '=' :: valueText) => do
      let (value, afterValue) ← readValue? (2 * valueText.length + 2) 0 (skipSpace valueText)
      let final ← finishLine? afterValue
      let extended ← builder.add path key value
      some (extended, final)
  | _ => none

/-- The rest of a document, line by line. -/
def readLines? : Nat → Builder → List Char → Option Builder
  | 0, _, _ => none
  | limit + 1, builder, text =>
      match skipSpace text with
      | [] => some builder
      | '#' :: rest => (finishLine? ('#' :: rest)).bind (readLines? limit builder)
      | '\n' :: rest => readLines? limit builder rest
      | '\r' :: rest => (lineEnd? ('\r' :: rest)).bind (readLines? limit builder)
      | '[' :: rest =>
          match readHeader? builder rest with
          | some (opened, after) => readLines? limit opened after
          | none => none
      | c :: rest =>
          match readLine? builder (c :: rest) with
          | some (extended, after) => readLines? limit extended after
          | none => none

/-- Reads a document.  A byte order mark in front of it is skipped. -/
def read? (text : String) : Option DataTree :=
  let chars :=
    match text.toList with
    | '\ufeff' :: rest => rest
    | other => other
  match readLines? (chars.length + 1) .start chars with
  | some builder => builder.close.map Table.tree
  | none => none

end Toml
end ValueMethods
