import ValueMethods.Proofs.MethodLayout
import ValueMethods.Proofs.Rereading

/-!
# String literals

What a string literal denotes, and what the literals that are written for texts denote.  Quotes,
backslashes and line feeds are escaped and can be told from what they escape, so undoing the escapes
gives the text back.  A carriage return is written as it is; a text with one has no literal that can
be read, and a listing with such a label is no expression.
-/

namespace ValueMethods

/-! ## Undoing escapes -/

/-- The character that an escape sequence stands for, by the letter behind its backslash.  A `u` is
none of these letters: Unicode escapes are replaced before literals are read, so what is read here
has none. -/
def escapedChar? : Char → Option Char
  | 'b' => some '\x08'
  | 's' => some ' '
  | 't' => some '\t'
  | 'n' => some '\n'
  | 'f' => some '\x0c'
  | 'r' => some '\r'
  | '"' => some '"'
  | '\'' => some '\''
  | '\\' => some '\\'
  | _ => none

/-- Undoes the escape sequences between two quotes from left to right.  A quote outside of them, a
backslash that begins none, and a character that may not stand for itself are refused. -/
def unescape? (standsForItself : Char → Bool) : List Char → Option (List Char)
  | [] => some []
  | '\\' :: letter :: rest =>
      (escapedChar? letter).bind fun c => (unescape? standsForItself rest).map (c :: ·)
  | c :: rest =>
      if c ≠ '"' ∧ c ≠ '\\' ∧ standsForItself c = true then
        (unescape? standsForItself rest).map (c :: ·)
      else
        none

/-- Everything but the ends of lines may stand for itself in a string literal. -/
def isInLine (c : Char) : Bool :=
  c != '\n' && c != '\r'

/-- The text that a string literal denotes. -/
def denotedText? (literal : String) : Option String :=
  (unescape? isInLine literal.toList.tail.dropLast).map String.ofList

/-- The characters between the quotes of the literal for a text. -/
def literalBody (text : String) : List Char :=
  text.toList.flatMap literalChar

theorem toList_stringLiteral (text : String) :
    (stringLiteral text).toList = '"' :: (literalBody text ++ ['"']) := by
  simp [stringLiteral, literalBody]

/-- Carriage returns are written as they are. -/
theorem return_mem_literalBody_iff (text : String) :
    '\r' ∈ literalBody text ↔ '\r' ∈ text.toList := by
  have kept (c : Char) : '\r' ∈ literalChar c ↔ c = '\r' := by
    unfold literalChar
    split_ifs with quote backslash feed
    · simp [quote]
    · simp [backslash]
    · simp [feed]
    · simp [eq_comm]
  simp [literalBody, kept]

/-- The character is escaped in literals, or it may stand for itself. -/
def IsWritable (standsForItself : Char → Bool) (c : Char) : Prop :=
  c = '"' ∨ c = '\\' ∨ c = '\n' ∨ standsForItself c = true

theorem unescape?_literalChar {standsForItself : Char → Bool} {c : Char}
    (writable : IsWritable standsForItself c) (rest : List Char) :
    unescape? standsForItself (literalChar c ++ rest) =
      (unescape? standsForItself rest).map (c :: ·) := by
  unfold literalChar
  split
  · next quote => simp [unescape?, escapedChar?, quote]
  · next notQuote =>
      split
      · next backslash => simp [unescape?, escapedChar?, backslash]
      · next notBackslash =>
          split
          · next feed => simp [unescape?, escapedChar?, feed]
          · next notFeed =>
              have plain : standsForItself c = true := by
                simpa [IsWritable, notQuote, notBackslash, notFeed] using writable
              simp [unescape?, notQuote, notBackslash, plain]

theorem unescape?_literalChar_of_not {standsForItself : Char → Bool} {c : Char}
    (refused : ¬IsWritable standsForItself c) (rest : List Char) :
    unescape? standsForItself (literalChar c ++ rest) = none := by
  simp only [IsWritable, not_or] at refused
  obtain ⟨notQuote, notBackslash, notFeed, notPlain⟩ := refused
  simp [literalChar, notQuote, notBackslash, notFeed, unescape?, notPlain]

/-- The literal for a text denotes it, as far as its characters may be written. -/
theorem unescape?_literalBody_iff {standsForItself : Char → Bool} (text : String) :
    unescape? standsForItself (literalBody text) = some text.toList ↔
      ∀ c ∈ text.toList, IsWritable standsForItself c := by
  unfold literalBody
  induction text.toList with
  | nil => simp [unescape?]
  | cons c rest ih =>
      rw [List.flatMap_cons, List.forall_mem_cons]
      by_cases here : IsWritable standsForItself c
      · rw [unescape?_literalChar here, ← ih]
        simp [here]
      · rw [unescape?_literalChar_of_not here]
        simp [here]

theorem isWritable_isInLine_iff (c : Char) : IsWritable isInLine c ↔ c ≠ '\r' := by
  simp only [IsWritable, isInLine, Bool.and_eq_true, bne_iff_ne]
  constructor
  · rintro (rfl | rfl | rfl | ⟨_, other⟩)
    · decide
    · decide
    · decide
    · exact other
  · intro other
    by_cases feed : c = '\n'
    · exact .inr (.inr (.inl feed))
    · exact .inr (.inr (.inr ⟨feed, other⟩))

/-! ## Reading literals -/

namespace Alphabet

variable {alphabet : Alphabet} {label : String}

/-- A carriage return ends the line, and no literal goes beyond it. -/
theorem scan_stringLiteral_of_return (broken : '\r' ∈ label.toList) (rest : List Char) :
    alphabet.scan ((stringLiteral label).toList ++ rest) (.word []) = none := by
  obtain ⟨front, back, split, before⟩ := List.eq_append_cons_of_mem broken
  have other := alphabet.not_continues '"' (by decide)
  have written : (stringLiteral label).toList ++ rest =
      '"' :: (front.flatMap literalChar ++
        '\r' :: (back.flatMap literalChar ++ '"' :: rest)) := by
    simp [toList_stringLiteral, literalBody, split, literalChar]
  have inside := alphabet.scan_literalChars before
    ('\r' :: (back.flatMap literalChar ++ '"' :: rest)) []
  rw [written, scan, readChar, if_neg (by simp [other]), closed_nil]
  simp [separator, inside, scan, readChar]

/-- The literal for a text is one token unless there is a carriage return in it. -/
theorem tokens?_stringLiteral_iff :
    alphabet.tokens? (stringLiteral label) = some [.literal (stringLiteral label)] ↔
      '\r' ∉ label.toList := by
  constructor
  · intro read broken
    have refused := alphabet.scan_stringLiteral_of_return broken []
    rw [List.append_nil] at refused
    rw [tokens?, refused] at read
    simp at read
  · intro oneLine
    have spells : alphabet.Spells (stringLiteral label).toList
        [.literal (stringLiteral label)] := by
      simpa using Spells.nil.literal oneLine
    simpa [tokens?, scan] using spells [] (by simp [EndsWord])

end Alphabet

/-! ## Reading listings -/

namespace SyntaxTree

/-- The entries that a chain of calls on a new helper adds, in order. -/
def addedEntries? : SyntaxTree → Option (List LabelledField)
  | .callOn (.name _) "toStringHelper" [.this] => some []
  | .callOn chain "omitNullValues" [] => chain.addedEntries?
  | .callOn chain "add" [.literal written, .name read] =>
      chain.addedEntries?.bind fun before =>
        (denotedText? written).map fun label => before ++ [⟨label, read⟩]
  | _ => none

/-- The entries of a chain of calls that produces a listing. -/
def entries? : SyntaxTree → Option (List LabelledField)
  | .callOn chain "toString" [] => chain.addedEntries?
  | _ => none

end SyntaxTree

theorem denotedText?_stringLiteral {text : String} (oneLine : '\r' ∉ text.toList) :
    denotedText? (stringLiteral text) = some text := by
  have writable : ∀ c ∈ text.toList, IsWritable isInLine c := fun c member =>
    (isWritable_isInLine_iff c).mpr fun same => oneLine (same ▸ member)
  have body : (stringLiteral text).toList.tail.dropLast = literalBody text := by
    simp [toList_stringLiteral]
  simp [denotedText?, body, (unescape?_literalBody_iff text).mpr writable]

namespace Listing

/-- Calls that add entries come behind those of the chain. -/
theorem addedEntries?_foldl {entries : List LabelledField} (before : List LabelledField)
    (labels : ∀ entry ∈ entries, '\r' ∉ entry.label.toList) {chain : SyntaxTree}
    (begun : chain.addedEntries? = some before) :
    (entries.foldl (fun chain entry =>
      .callOn chain "add" [.literal (stringLiteral entry.label), .name entry.field])
        chain).addedEntries? = some (before ++ entries) := by
  induction entries generalizing before chain with
  | nil => simpa using begun
  | cons entry rest ih =>
      obtain ⟨here, later⟩ := List.forall_mem_cons.mp labels
      have added : (SyntaxTree.callOn chain "add"
          [.literal (stringLiteral entry.label), .name entry.field]).addedEntries? =
            some (before ++ [entry]) := by
        simp [SyntaxTree.addedEntries?, begun, denotedText?_stringLiteral here]
      simpa using ih (before ++ [entry]) later added

/-- The calls that a listing is written as hold its entries. -/
theorem entries?_erasure {content : Listing}
    (labels : ∀ entry ∈ content.entries, '\r' ∉ entry.label.toList) :
    content.erasure.entries? = some content.entries := by
  rw [erasure, SyntaxTree.entries?]
  refine addedEntries?_foldl [] labels ?_
  split <;> rfl

variable {alphabet : Alphabet}

/-- Nothing goes on behind a label with a carriage return. -/
theorem scan_entries_of_return {entries : List LabelledField}
    (fields : ∀ entry ∈ entries, alphabet.IsIdentifier entry.field)
    (broken : ∃ entry ∈ entries, '\r' ∈ entry.label.toList) {text : List Char}
    {tokens : List Token} (spells : alphabet.Spells text tokens) (rest : List Char) :
    alphabet.scan (text ++ ((Text.concat (entries.map entryText)).toList ++ rest)) (.word []) =
      none := by
  induction entries generalizing text tokens with
  | nil => simp at broken
  | cons entry others ih =>
      obtain ⟨field, otherFields⟩ := List.forall_mem_cons.mp fields
      by_cases here : '\r' ∈ entry.label.toList
      · have dot := alphabet.not_continues '.' (by decide)
        have opens := alphabet.not_continues '(' (by decide)
        have add : alphabet.IsWord "add" := alphabet.isWord_of_letters (by decide) (by decide)
        have opened := spells.append_cons dot
          ((add.spells.append_cons opens (Alphabet.Spells.nil.cons opens rfl)).cons dot rfl)
        have written : text ++ ((Text.concat ((entry :: others).map entryText)).toList ++ rest) =
            (text ++ '.' :: ("add".toList ++ ['('])) ++ ((stringLiteral entry.label).toList ++
              (", ".toList ++ entry.field.toList ++ ')' ::
                ((Text.concat (others.map entryText)).toList ++ rest))) := by
          simp [entryText]
        have ends (more : List Char) :
            alphabet.EndsWord ((stringLiteral entry.label).toList ++ more) := by
          rw [toList_stringLiteral]
          exact alphabet.endsWord_cons (alphabet.not_continues '"' (by decide)) _
        rw [written, opened _ (ends _), Alphabet.scan_stringLiteral_of_return here]
        rfl
      · have fieldOfOne : ∀ one ∈ [entry], alphabet.IsIdentifier one.field := by simpa using field
        have labelOfOne : ∀ one ∈ [entry], '\r' ∉ one.label.toList := by simpa using here
        have later : ∃ entry ∈ others, '\r' ∈ entry.label.toList := by simpa [here] using broken
        have refused := ih otherFields later (spells_entries fieldOfOne labelOfOne spells)
        simpa using refused

/-- The text of a listing is an expression unless a label has a carriage return. -/
theorem parses_iff {content : Listing} (helper : alphabet.IsIdentifier content.helper.name)
    (fields : ∀ entry ∈ content.entries, alphabet.IsIdentifier entry.field) (tree : SyntaxTree) :
    alphabet.Parses content.text tree ↔
      tree = content.erasure ∧ ∀ entry ∈ content.entries, '\r' ∉ entry.label.toList := by
  by_cases broken : ∃ entry ∈ content.entries, '\r' ∈ entry.label.toList
  · have refused : alphabet.tokens? content.text = none := by
      have stuck := scan_entries_of_return fields broken (spells_opening helper)
        ".toString()".toList
      simpa [Alphabet.tokens?, text] using stuck
    constructor
    · rintro ⟨tokens, read, _⟩
      simp [refused] at read
    · rintro ⟨_, labels⟩
      obtain ⟨entry, member, here⟩ := broken
      exact absurd here (labels entry member)
  · have labels : ∀ entry ∈ content.entries, '\r' ∉ entry.label.toList := by
      simpa using broken
    have parses : alphabet.Parses content.text content.erasure :=
      (Expr.Readable.listing ⟨helper, fields, labels⟩).parses false
    constructor
    · exact fun also => ⟨also.unique parses, labels⟩
    · rintro ⟨rfl, _⟩
      exact parses

end Listing

/-- The literal for a text is the text with quotes, backslashes and line feeds escaped, and undoing
the escapes gives the text back.  It has no raw line feed; raw carriage returns are those of the
text, and it is read, as one token that denotes the text, exactly if there are none.  So a listing
of fields with identifiers for names is an expression with just its labels and fields as entries,
exactly if no label has a carriage return. -/
theorem labels_read_back_iff (alphabet : Alphabet) :
    (∀ text : String,
      (stringLiteral text).toList = '"' :: (literalBody text ++ ['"']) ∧
      unescape? (fun _ => true) (literalBody text) = some text.toList ∧
      '\n' ∉ literalBody text ∧
      ('\r' ∈ literalBody text ↔ '\r' ∈ text.toList) ∧
      (unescape? isInLine (literalBody text) = some text.toList ↔ '\r' ∉ text.toList) ∧
      (alphabet.tokens? (stringLiteral text) = some [.literal (stringLiteral text)] ↔
        '\r' ∉ text.toList)) ∧
    ∀ content : Listing, alphabet.IsIdentifier content.helper.name →
      (∀ entry ∈ content.entries, alphabet.IsIdentifier entry.field) → ∀ entries,
        (∃ tree, alphabet.Parses content.text tree ∧ tree.entries? = some entries) ↔
          entries = content.entries ∧
            ∀ entry ∈ content.entries, '\r' ∉ entry.label.toList := by
  constructor
  · intro text
    have feed : '\n' ∉ literalBody text := by
      have oneLine := Text.isOneLine_stringLiteral text
      rw [Text.IsOneLine, toList_stringLiteral] at oneLine
      exact fun member => oneLine (List.mem_cons_of_mem _ (List.mem_append_left _ member))
    have undone : unescape? (fun _ => true) (literalBody text) = some text.toList :=
      (unescape?_literalBody_iff text).mpr fun c _ => .inr (.inr (.inr rfl))
    have read : unescape? isInLine (literalBody text) = some text.toList ↔ '\r' ∉ text.toList := by
      rw [unescape?_literalBody_iff]
      simp only [isWritable_isInLine_iff]
      exact ⟨fun each member => each _ member rfl,
        fun absent c member same => absent (same ▸ member)⟩
    exact ⟨toList_stringLiteral text, undone, feed, return_mem_literalBody_iff text, read,
      Alphabet.tokens?_stringLiteral_iff⟩
  · intro content helper fields entries
    constructor
    · rintro ⟨tree, parses, read⟩
      obtain ⟨rfl, labels⟩ := (Listing.parses_iff helper fields tree).mp parses
      rw [Listing.entries?_erasure labels] at read
      exact ⟨(Option.some.inj read).symm, labels⟩
    · rintro ⟨rfl, labels⟩
      exact ⟨content.erasure, (Listing.parses_iff helper fields _).mpr ⟨rfl, labels⟩,
        Listing.entries?_erasure labels⟩

/-- A listing with quotes, backslashes and a line feed in its labels. -/
def quotingListing : Listing where
  helper := ⟨none, "H"⟩
  className := "C"
  omitNulls := true
  entries := [⟨"\"\\\"", "x"⟩, ⟨"\\u0041\n", "y"⟩]

theorem labels_read_back_on_quotingListing :
    asciiAlphabet.IsIdentifier quotingListing.helper.name ∧
      (∀ entry ∈ quotingListing.entries, asciiAlphabet.IsIdentifier entry.field) ∧
      quotingListing.text = "H.toStringHelper(this).omitNullValues()" ++
        ".add(\"\\\"\\\\\\\"\", x).add(\"\\\\u0041\\n\", y).toString()" ∧
      ∃ tree, asciiAlphabet.Parses quotingListing.text tree ∧
        tree.entries? = some [⟨"\"\\\"", "x"⟩, ⟨"\\u0041\n", "y"⟩] := by
  have helper : asciiAlphabet.IsIdentifier quotingListing.helper.name := by decide
  have fields : ∀ entry ∈ quotingListing.entries, asciiAlphabet.IsIdentifier entry.field := by
    decide
  have reads := (labels_read_back_iff asciiAlphabet).2 quotingListing helper fields
    quotingListing.entries
  exact ⟨helper, fields, by decide +kernel, reads.mpr ⟨rfl, by decide⟩⟩

/-- A listing with a carriage return in its label. -/
def brokenListing : Listing where
  helper := ⟨none, "H"⟩
  className := "C"
  omitNulls := false
  entries := [⟨"a\rb", "x"⟩]

/-- The carriage return of a label stays in its literal.  So the literal goes over the end of a
line, and neither it nor the listing can be read. -/
theorem raw_return_breaks_literal :
    (¬∀ text : String, '\n' ∉ literalBody text ∧ '\r' ∉ literalBody text ∧
      unescape? isInLine (literalBody text) = some text.toList) ∧
    stringLiteral "a\rb" = "\"a\rb\"" ∧
    asciiAlphabet.tokens? (stringLiteral "a\rb") = none ∧
    ¬∃ tree, asciiAlphabet.Parses brokenListing.text tree := by
  refine ⟨fun always => ?_, by decide +kernel, by decide +kernel, ?_⟩
  · exact absurd (always "a\rb").2.1 (by decide +kernel)
  · rintro ⟨tree, parses⟩
    have labels := ((Listing.parses_iff (by decide) (by decide) tree).mp parses).2
    exact absurd labels (by decide)

end ValueMethods
