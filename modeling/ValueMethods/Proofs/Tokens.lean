import Mathlib.Data.Option.Basic
import ValueMethods.Java.CodeText

/-!
# Tokens of an expression

How the text of a Java expression falls into tokens: words, string literals, punctuation and
operators.  A text is read character by character.  A word goes on for as long as its characters
may be in an identifier, so a text followed by anything else is read as it would be read alone;
`Spells` says so, and texts that spell tokens are put together from left to right.
-/

namespace ValueMethods

/-! ## Words -/

/-- The words of Java that are no identifiers. -/
def reservedWords : List String :=
  ["abstract", "assert", "boolean", "break", "byte", "case", "catch", "char", "class", "const",
    "continue", "default", "do", "double", "else", "enum", "extends", "final", "finally", "float",
    "for", "goto", "if", "implements", "import", "instanceof", "int", "interface", "long",
    "native", "new", "package", "private", "protected", "public", "return", "short", "static",
    "strictfp", "super", "switch", "synchronized", "this", "throw", "throws", "transient", "try",
    "void", "volatile", "while", "_", "true", "false", "null"]

/-- Which characters may open an identifier and which may be in one.  All that matters here is that
the letters open one and that blanks, punctuation and operators are in none. -/
structure Alphabet where
  /-- Whether a character may open an identifier. -/
  opens : Char → Bool
  /-- Whether a character may be in an identifier. -/
  continues : Char → Bool
  continues_of_opens : ∀ c, opens c = true → continues c = true
  opens_of_letter : ∀ c, c.isAlpha = true → opens c = true
  not_continues : ∀ c ∈ [' ', '(', ')', '.', ',', '"', '=', '!', '&'], continues c = false

/-- A word that is read as one token. -/
structure Alphabet.IsWord (alphabet : Alphabet) (word : String) : Prop where
  opens : word.toList.head?.any alphabet.opens = true
  continues : word.toList.all alphabet.continues = true

instance (alphabet : Alphabet) (word : String) : Decidable (alphabet.IsWord word) :=
  decidable_of_iff
    (word.toList.head?.any alphabet.opens = true ∧ word.toList.all alphabet.continues = true)
    ⟨fun ⟨opens, continues⟩ => ⟨opens, continues⟩, fun ⟨opens, continues⟩ => ⟨opens, continues⟩⟩

/-- An identifier: a word that is not reserved. -/
structure Alphabet.IsIdentifier (alphabet : Alphabet) (name : String) : Prop
    extends alphabet.IsWord name where
  notReserved : name ∉ reservedWords

instance (alphabet : Alphabet) (name : String) : Decidable (alphabet.IsIdentifier name) :=
  decidable_of_iff (alphabet.IsWord name ∧ name ∉ reservedWords)
    ⟨fun ⟨isWord, notReserved⟩ => ⟨isWord, notReserved⟩,
      fun isIdentifier => ⟨isIdentifier.toIsWord, isIdentifier.notReserved⟩⟩

/-- Letters make a word in every alphabet. -/
theorem Alphabet.isWord_of_letters (alphabet : Alphabet) {word : String}
    (nonempty : word.toList ≠ []) (letters : word.toList.all Char.isAlpha = true) :
    alphabet.IsWord word := by
  have opens (c : Char) (member : c ∈ word.toList) : alphabet.opens c = true :=
    alphabet.opens_of_letter c (List.all_eq_true.mp letters c member)
  constructor
  · obtain ⟨first, rest, same⟩ := List.exists_cons_of_ne_nil nonempty
    simpa [same] using opens first (by simp [same])
  · exact List.all_eq_true.mpr fun c member => alphabet.continues_of_opens c (opens c member)

/-! ## Reading tokens -/

/-- Tokens. -/
inductive Token where
  /-- An identifier or a reserved word. -/
  | word (text : String)
  /-- A string literal, with its quotes. -/
  | literal (text : String)
  /-- An opening parenthesis. -/
  | opening
  /-- A closing parenthesis. -/
  | closing
  /-- The dot of a selection. -/
  | dot
  /-- The comma between arguments. -/
  | comma
  /-- A binary operator. -/
  | operator (operator : Operator)
  deriving DecidableEq

/-- What has been begun while a text is read. -/
inductive Scanning where
  /-- A word with the given characters, the last one first; if there are none, nothing. -/
  | word (characters : List Char)
  /-- An operator, of which the first character has been read. -/
  | operator (operator : Operator)
  /-- A string literal with the given characters after its quote, the last one first. -/
  | literal (characters : List Char)
  /-- A string literal that has just come to a backslash. -/
  | escape (characters : List Char)

namespace Alphabet

variable (alphabet : Alphabet)

/-- The tokens of a word that has come to its end; none if nothing was begun. -/
def closed (characters : List Char) : Option (List Token) :=
  match characters.reverse with
  | [] => some []
  | first :: rest =>
      if alphabet.opens first then some [.word (String.ofList (first :: rest))] else none

/-- Reads a character that is in no word. -/
def separator : Char → Option (Scanning × List Token)
  | ' ' => some (.word [], [])
  | '(' => some (.word [], [.opening])
  | ')' => some (.word [], [.closing])
  | '.' => some (.word [], [.dot])
  | ',' => some (.word [], [.comma])
  | '=' => some (.operator .same, [])
  | '!' => some (.operator .different, [])
  | '&' => some (.operator .both, [])
  | '"' => some (.literal [], [])
  | _ => none

/-- Reads one character: what has been begun after it, and the tokens that are complete. -/
def readChar (c : Char) : Scanning → Option (Scanning × List Token)
  | .word characters =>
      if alphabet.continues c then
        some (.word (c :: characters), [])
      else
        (alphabet.closed characters).bind fun front =>
          (separator c).map fun (next, back) => (next, front ++ back)
  | .operator operator =>
      if [c] = operator.symbol.toList.tail then some (.word [], [.operator operator]) else none
  | .literal characters =>
      if c = '"' then
        some (.word [], [.literal (String.ofList ('"' :: characters.reverse ++ ['"']))])
      else if c = '\\' then
        some (.escape characters, [])
      else if c = '\n' ∨ c = '\r' then
        none
      else
        some (.literal (c :: characters), [])
  | .escape characters =>
      if c ∈ ['b', 's', 't', 'n', 'f', 'r', '"', '\'', '\\'] then
        some (.literal (c :: '\\' :: characters), [])
      else
        none

/-- The tokens of a text, after what has been begun. -/
def scan : List Char → Scanning → Option (List Token)
  | [], .word characters => alphabet.closed characters
  | [], _ => none
  | c :: rest, scanning =>
      (alphabet.readChar c scanning).bind fun (next, front) => (scan rest next).map (front ++ ·)

/-- The tokens of a text. -/
def tokens? (text : String) : Option (List Token) :=
  alphabet.scan text.toList (.word [])

@[simp]
theorem closed_nil : alphabet.closed [] = some [] := rfl

/-- A word of the alphabet is closed as one token. -/
theorem closed_reverse {word : String} (isWord : alphabet.IsWord word) :
    alphabet.closed word.toList.reverse = some [.word word] := by
  have opens := isWord.opens
  rw [closed, List.reverse_reverse]
  cases same : word.toList with
  | nil => simp [same] at opens
  | cons first rest =>
      rw [same, List.head?_cons, Option.any_some] at opens
      simp [opens, ← same]

/-- Characters that go on with a word are added to it. -/
theorem scan_append_of_continues {characters : List Char}
    (continues : ∀ c ∈ characters, alphabet.continues c = true) (rest begun : List Char) :
    alphabet.scan (characters ++ rest) (.word begun) =
      alphabet.scan rest (.word (characters.reverse ++ begun)) := by
  induction characters generalizing begun with
  | nil => rfl
  | cons c others ih =>
      obtain ⟨here, later⟩ := List.forall_mem_cons.mp continues
      rw [List.cons_append, scan, readChar, if_pos here]
      simp [ih later]

/-- The characters of a literal are kept as they are written. -/
theorem scan_literalChar {c : Char} (oneLine : c ≠ '\r') (rest begun : List Char) :
    alphabet.scan (literalChar c ++ rest) (.literal begun) =
      alphabet.scan rest (.literal ((literalChar c).reverse ++ begun)) := by
  unfold literalChar
  split
  · simp [scan, readChar, Function.comp_def]
  · next notQuote =>
      split
      · simp [scan, readChar, Function.comp_def]
      · next notBackslash =>
          split
          · simp [scan, readChar, Function.comp_def]
          · next notFeed => simp [scan, readChar, notQuote, notBackslash, notFeed, oneLine]

theorem scan_literalChars {label : List Char} (oneLine : '\r' ∉ label) (rest begun : List Char) :
    alphabet.scan (label.flatMap literalChar ++ rest) (.literal begun) =
      alphabet.scan rest (.literal ((label.flatMap literalChar).reverse ++ begun)) := by
  induction label generalizing begun with
  | nil => rfl
  | cons c others ih =>
      obtain ⟨here, later⟩ := not_or.mp (mt List.mem_cons.mpr oneLine)
      rw [List.flatMap_cons, List.append_assoc, alphabet.scan_literalChar (Ne.symm here), ih later,
        List.reverse_append, List.append_assoc]

/-! ## Texts that spell tokens -/

/-- The text does not go on with a word in front of it. -/
def EndsWord (text : List Char) : Prop :=
  ∀ c ∈ text.head?, alphabet.continues c = false

theorem endsWord_cons {c : Char} (other : alphabet.continues c = false) (text : List Char) :
    alphabet.EndsWord (c :: text) := by
  simpa [EndsWord] using other

/-- A word ends before a text that does not go on with it. -/
theorem scan_of_endsWord {text : List Char} (ends : alphabet.EndsWord text)
    (characters : List Char) :
    alphabet.scan text (.word characters) =
      (alphabet.closed characters).bind fun front =>
        (alphabet.scan text (.word [])).map (front ++ ·) := by
  cases text with
  | nil => cases closed : alphabet.closed characters <;> simp [scan, closed]
  | cons c rest =>
      have other : alphabet.continues c = false := ends c rfl
      cases closed : alphabet.closed characters with
      | none => simp [scan, readChar, other, closed]
      | some front =>
          simp [scan, readChar, other, closed, Option.map_bind, Option.bind_map,
            Function.comp_def]

/-- The text is read as the tokens wherever a word may end after it. -/
def Spells (text : List Char) (tokens : List Token) : Prop :=
  ∀ rest, alphabet.EndsWord rest →
    alphabet.scan (text ++ rest) (.word []) =
      (alphabet.scan rest (.word [])).map (tokens ++ ·)

variable {alphabet}

theorem Spells.nil : alphabet.Spells [] [] := by
  intro rest _
  simp

theorem IsWord.spells {word : String} (isWord : alphabet.IsWord word) :
    alphabet.Spells word.toList [.word word] := by
  intro rest ends
  rw [alphabet.scan_append_of_continues (List.all_eq_true.mp isWord.continues), List.append_nil,
    alphabet.scan_of_endsWord ends, alphabet.closed_reverse isWord]
  rfl

namespace Spells

variable {text more : List Char} {tokens others : List Token}

/-- A text goes on with one that opens with a separator. -/
theorem append_cons {c : Char} (spells : alphabet.Spells text tokens)
    (other : alphabet.continues c = false) (further : alphabet.Spells (c :: more) others) :
    alphabet.Spells (text ++ c :: more) (tokens ++ others) := by
  intro rest ends
  have apart : alphabet.EndsWord (c :: more ++ rest) := alphabet.endsWord_cons other _
  rw [List.append_assoc, spells _ apart, further rest ends]
  simp [Function.comp_def]

/-- A blank or a mark of punctuation in front of a text. -/
theorem cons {c : Char} {mark : List Token} (other : alphabet.continues c = false)
    (read : separator c = some (.word [], mark)) (spells : alphabet.Spells text tokens) :
    alphabet.Spells (c :: text) (mark ++ tokens) := by
  intro rest ends
  rw [List.cons_append, scan, readChar, if_neg (by simp [other]), closed_nil, read]
  simp [spells rest ends, Function.comp_def]

/-- Parentheses around a text. -/
theorem parenthesized (spells : alphabet.Spells text tokens) :
    alphabet.Spells ('(' :: (text ++ [')'])) (.opening :: (tokens ++ [.closing])) := by
  have opens := alphabet.not_continues '(' (by decide)
  have closes := alphabet.not_continues ')' (by decide)
  exact (spells.append_cons closes (Spells.nil.cons closes rfl)).cons opens rfl

/-- An operator in front of a text. -/
theorem operator (operator : Operator) (spells : alphabet.Spells text tokens) :
    alphabet.Spells (operator.symbol.toList ++ text) (.operator operator :: tokens) := by
  intro rest ends
  obtain ⟨first, second, symbol, begins⟩ : ∃ first second,
      operator.symbol.toList = [first, second] ∧
        first ∈ [' ', '(', ')', '.', ',', '"', '=', '!', '&'] ∧
        separator first = some (.operator operator, []) := by
    cases operator <;> exact ⟨_, _, rfl, by decide, rfl⟩
  have other := alphabet.not_continues first begins.1
  rw [symbol]
  simp [scan, readChar, other, begins.2, symbol, spells rest ends, Function.comp_def]

/-- A string literal in front of a text. -/
theorem literal {label : String} (oneLine : '\r' ∉ label.toList)
    (spells : alphabet.Spells text tokens) :
    alphabet.Spells ((stringLiteral label).toList ++ text)
      (.literal (stringLiteral label) :: tokens) := by
  intro rest ends
  have other := alphabet.not_continues '"' (by decide)
  have written : (stringLiteral label).toList ++ text ++ rest =
      '"' :: (label.toList.flatMap literalChar ++ '"' :: (text ++ rest)) := by
    simp [stringLiteral]
  have inside := alphabet.scan_literalChars oneLine ('"' :: (text ++ rest)) []
  have whole : stringLiteral label =
      String.ofList ('"' :: (label.toList.flatMap literalChar ++ ['"'])) := by
    apply String.toList_inj.mp
    simp [stringLiteral]
  rw [written, scan, readChar, if_neg (by simp [other]), closed_nil]
  simp [separator, inside, scan, readChar, spells rest ends, whole, Function.comp_def]

end Spells

end Alphabet
end ValueMethods
