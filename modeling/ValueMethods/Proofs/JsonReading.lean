import ValueMethods.Data.JsonReader
import ValueMethods.Data.JsonText

/-!
# Reading JSON back

What is written as JSON is read back, however it is laid out.  A text writes a tree if it has the
tokens of the tree in order, with blanks where the layout puts them; both ways of writing a tree
without numbers give such texts.  The reader takes one from the front of a text and leaves the rest.
-/

namespace ValueMethods
namespace Json

/-! ### Strings -/

theorem fourDigits_control : ∀ value < 0x20,
    fourDigits value = ['0', '0', Text.hexDigit (value / 16), Text.hexDigit (value % 16)] ∧
      Text.number? 16 ['0', '0', Text.hexDigit (value / 16), Text.hexDigit (value % 16)] =
        some value := by
  decide +kernel

section Pieces

variable {c : Char} {text rest after : List Char} {pieces : List Piece}

theorem readPieces_escape {letter : Char} (known : shortEscape? letter = some c)
    (short : letter ≠ 'u') (read : readPieces rest = some (pieces, after)) :
    readPieces ('\\' :: letter :: rest) = some (.char c :: pieces, after) := by
  rw [readPieces, known, read]
  · rfl
  · rintro _ _ _ _ _ rfl
    exact absurd rfl short

theorem readPieces_unit {digits : List Char} {value : Nat} (four : digits.length = 4)
    (known : Text.number? 16 digits = some value) (read : readPieces rest = some (pieces, after)) :
    readPieces ('\\' :: 'u' :: (digits ++ rest)) = some (.unit value :: pieces, after) := by
  match digits, four with
  | [a, b, c, d], _ =>
      rw [List.cons_append, List.cons_append, List.cons_append, List.cons_append, List.nil_append,
        readPieces, known, read]
      rfl

theorem readPieces_plain (quote : c ≠ '"') (backslash : c ≠ '\\') (printed : ¬c.toNat < 0x20)
    (read : readPieces rest = some (pieces, after)) :
    readPieces (c :: rest) = some (.char c :: pieces, after) := by
  rw [readPieces, if_neg (by simp [backslash, printed]), read]
  · rfl
  all_goals simp [quote, backslash]

/-- What is written for the character is read as the piece, which stands for the character. -/
structure Conveys (c : Char) (piece : Piece) : Prop where
  read : ∀ rest pieces after, readPieces rest = some (pieces, after) →
    readPieces (stringChar c ++ rest) = some (piece :: pieces, after)
  join : ∀ pieces, joinPieces none (piece :: pieces) = (joinPieces none pieces).map (c :: ·)

theorem exists_conveys (c : Char) : ∃ piece, Conveys c piece := by
  have short {letter : Char} (written : stringChar c = ['\\', letter])
      (known : shortEscape? letter = some c) (other : letter ≠ 'u') :
      ∃ piece, Conveys c piece := by
    refine ⟨.char c, fun rest pieces after read => ?_, fun pieces => rfl⟩
    rw [written]
    exact readPieces_escape known other read
  by_cases quote : c = '"'
  · subst quote; exact short rfl rfl (by decide)
  by_cases backslash : c = '\\'
  · subst backslash; exact short rfl rfl (by decide)
  by_cases lineFeed : c = '\n'
  · subst lineFeed; exact short rfl rfl (by decide)
  by_cases carriageReturn : c = '\r'
  · subst carriageReturn; exact short rfl rfl (by decide)
  by_cases tabulator : c = '\t'
  · subst tabulator; exact short rfl rfl (by decide)
  by_cases backspace : c = '\x08'
  · subst backspace; exact short rfl rfl (by decide)
  by_cases formFeed : c = '\x0c'
  · subst formFeed; exact short rfl rfl (by decide)
  have written : stringChar c =
      if c.toNat < 0x20 then ['\\', 'u'] ++ fourDigits c.toNat else [c] := by
    simp only [stringChar, quote, backslash, lineFeed, carriageReturn, tabulator, backspace,
      formFeed, if_false]
  by_cases control : c.toNat < 0x20
  · obtain ⟨digits, known⟩ := fourDigits_control c.toNat control
    refine ⟨.unit c.toNat, fun rest pieces after read => ?_, fun pieces => ?_⟩
    · rw [written, if_pos control, digits]
      exact readPieces_unit rfl known read
    · have high : isHighHalf c.toNat = false := by simp [isHighHalf]; omega
      have low : isLowHalf c.toNat = false := by simp [isLowHalf]; omega
      simp [joinPieces, high, low]
  · refine ⟨.char c, fun rest pieces after read => ?_, fun pieces => rfl⟩
    rw [written, if_neg control]
    exact readPieces_plain quote backslash control read

/-- A string is read back up to its closing quote. -/
theorem readString_stringChars (text rest : List Char) :
    readString (text.flatMap stringChar ++ '"' :: rest) =
      some (some (String.ofList text), rest) := by
  have reads : ∃ pieces, readPieces (text.flatMap stringChar ++ '"' :: rest) =
      some (pieces, rest) ∧ joinPieces none pieces = some text := by
    induction text with
    | nil => exact ⟨[], by simp [readPieces], rfl⟩
    | cons c text ih =>
        obtain ⟨pieces, read, joined⟩ := ih
        obtain ⟨piece, conveys⟩ := exists_conveys c
        refine ⟨piece :: pieces, ?_, by rw [conveys.join, joined, Option.map_some]⟩
        rw [List.flatMap_cons, List.append_assoc]
        exact conveys.read _ _ _ read
  obtain ⟨pieces, read, joined⟩ := reads
  simp only [readString, read, Option.map_some, joined]

end Pieces

/-! ### Texts of trees -/

/-- The text holds nothing but blanks. -/
def IsSpacing (text : List Char) : Prop :=
  ∀ c ∈ text, isSpace c = true

/-- The text of a tree in its place, with blanks in front. -/
structure Slot where
  /-- The blanks in front. -/
  spacing : List Char
  /-- The tree. -/
  tree : DataTree
  /-- The text of the tree. -/
  text : List Char
  isSpacing : IsSpacing spacing

/-- The text of an entry in its place, with blanks in front of the key and of the value. -/
structure Entry extends Slot where
  /-- The blanks in front of the key. -/
  lead : List Char
  /-- The key. -/
  key : String
  isSpacingLead : IsSpacing lead

/-- The text with the blanks in front. -/
def Slot.chars (slot : Slot) : List Char :=
  slot.spacing ++ slot.text

/-- The text of the key and of the value, with the blanks in front. -/
def Entry.chars (entry : Entry) : List Char :=
  entry.lead ++ (stringChars entry.key.toList ++ ':' :: entry.toSlot.chars)

/-- The key with the value. -/
def Entry.pair (entry : Entry) : String × DataTree :=
  (entry.key, entry.tree)

theorem Entry.length_text_lt (entry : Entry) : entry.text.length < entry.chars.length := by
  simp only [chars, Slot.chars, List.length_append, List.length_cons]
  omega

/-- The texts of further items, each behind a comma, and what closes the list. -/
def more (closing : List Char) : List (List Char) → List Char
  | [] => closing
  | chars :: rest => ',' :: (chars ++ more closing rest)

/-- The text has the tokens of the tree, with blanks in front of items, keys, values and closing
brackets.  No text is said to write a number. -/
inductive Writes : DataTree → List Char → Prop
  | null : Writes .null ['n', 'u', 'l', 'l']
  | yes : Writes (.bool true) ['t', 'r', 'u', 'e']
  | no : Writes (.bool false) ['f', 'a', 'l', 's', 'e']
  | text (value : String) : Writes (.text value) (stringChars value.toList)
  | emptyList : Writes (.list []) ['[', ']']
  | list {first : Slot} {rest : List Slot} {spacing : List Char}
      (written : ∀ slot ∈ first :: rest, Writes slot.tree slot.text)
      (isSpacing : IsSpacing spacing) :
      Writes (.list ((first :: rest).map Slot.tree))
        ('[' :: (first.chars ++ more (spacing ++ [']']) (rest.map Slot.chars)))
  | emptyMap : Writes (.map []) ['{', '}']
  | map {first : Entry} {rest : List Entry} {spacing : List Char}
      (written : ∀ entry ∈ first :: rest, Writes entry.tree entry.text)
      (isSpacing : IsSpacing spacing) :
      Writes (.map ((first :: rest).map Entry.pair))
        ('{' :: (first.chars ++ more (spacing ++ ['}']) (rest.map Entry.chars)))

/-! ### Reading them -/

section Spaces

variable {c : Char} {spacing text : List Char}

theorem skipSpace_append (isSpacing : IsSpacing spacing) (text : List Char) :
    skipSpace (spacing ++ text) = skipSpace text :=
  List.dropWhile_append_of_pos isSpacing

theorem skipSpace_cons (visible : isSpace c = false) (text : List Char) :
    skipSpace (c :: text) = c :: text :=
  List.dropWhile_cons_of_neg (by simp [visible])

theorem readValue_append (limit : Nat) (isSpacing : IsSpacing spacing) (text : List Char) :
    readValue limit (spacing ++ text) = readValue limit text := by
  cases limit with
  | zero => rfl
  | succ limit => rw [readValue, readValue, skipSpace_append isSpacing]

end Spaces

/-- The text of a value starts with a character that is no blank and does not close a list. -/
theorem Writes.head {tree : DataTree} {text : List Char} (writes : Writes tree text) :
    ∃ c rest, text = c :: rest ∧ isSpace c = false ∧ c ≠ ']' := by
  cases writes <;> exact ⟨_, _, rfl, by decide, by decide⟩

/-- The reader takes the text from the front of any other, if it may go on for that long. -/
def Reads (tree : DataTree) (text : List Char) : Prop :=
  ∀ limit rest, text.length ≤ limit → readValue limit (text ++ rest) = (tree, some rest)

section Steps

variable {limit : Nat} {text rest after : List Char} {value : DataTree}

theorem readItems_last (read : readValue limit text = (value, some rest))
    (closed : skipSpace rest = ']' :: after) :
    readItems (limit + 1) text = ([value], some after) := by
  simp only [readItems, read, closed]

theorem readItems_next {items : List DataTree} {further : Option (List Char)}
    (read : readValue limit text = (value, some rest)) (comma : skipSpace rest = ',' :: after)
    (later : readItems limit after = (items, further)) :
    readItems (limit + 1) text = (value :: items, further) := by
  simp only [readItems, read, comma, later]

/-- Behind the blanks in front, an entry starts with the quote of its key. -/
theorem Entry.skipSpace_chars (entry : Entry) (rest : List Char) :
    skipSpace (entry.chars ++ rest) = '"' :: (entry.key.toList.flatMap stringChar ++
      '"' :: ':' :: (entry.spacing ++ (entry.text ++ rest))) := by
  rw [Entry.chars, List.append_assoc, skipSpace_append entry.isSpacingLead, stringChars,
    List.cons_append, List.cons_append, skipSpace_cons (by decide)]
  simp [Slot.chars]

/-- Of an entry, the key is read first; what comes of the value decides how reading goes on. -/
theorem readEntries_entry (entry : Entry) (limit : Nat) (rest : List Char) :
    readEntries (limit + 1) (entry.chars ++ rest) =
      match readValue limit (entry.text ++ rest) with
      | (value, none) => ([(entry.key, value)], none)
      | (value, some rest) =>
          match skipSpace rest with
          | '}' :: after => ([(entry.key, value)], some after)
          | ',' :: more =>
              let (entries, after) := readEntries limit more
              ((entry.key, value) :: entries, after)
          | _ => ([(entry.key, value), ("", .malformed)], none) := by
  have key := readString_stringChars entry.key.toList
    (':' :: (entry.spacing ++ (entry.text ++ rest)))
  have colon : skipSpace (':' :: (entry.spacing ++ (entry.text ++ rest))) =
      ':' :: (entry.spacing ++ (entry.text ++ rest)) := skipSpace_cons (by decide) _
  rw [String.ofList_toList] at key
  simp only [readEntries, entry.skipSpace_chars, key, colon, readValue_append limit entry.isSpacing]
  cases readValue limit (entry.text ++ rest) with
  | mk value result => cases result <;> rfl

theorem readEntries_last {entry : Entry} (read : readValue limit (entry.text ++ text) =
      (value, some rest)) (closed : skipSpace rest = '}' :: after) :
    readEntries (limit + 1) (entry.chars ++ text) = ([(entry.key, value)], some after) := by
  simp only [readEntries_entry, read, closed]

theorem readEntries_next {entry : Entry} {entries : List (String × DataTree)}
    {further : Option (List Char)}
    (read : readValue limit (entry.text ++ text) = (value, some rest))
    (comma : skipSpace rest = ',' :: after) (later : readEntries limit after = (entries, further)) :
    readEntries (limit + 1) (entry.chars ++ text) = ((entry.key, value) :: entries, further) := by
  simp only [readEntries_entry, read, comma, later]

end Steps

section Lists

variable {spacing : List Char} (isSpacing : IsSpacing spacing)
include isSpacing

theorem skipSpace_closing {c : Char} (visible : isSpace c = false) (rest : List Char) :
    skipSpace (spacing ++ [c] ++ rest) = c :: rest := by
  rw [List.append_assoc, skipSpace_append isSpacing]
  exact skipSpace_cons visible rest

/-- If the text of every item is read back, so are all items up to the closing bracket. -/
theorem readItems_more {slot : Slot} {slots : List Slot} {limit : Nat} (rest : List Char)
    (reads : ∀ other ∈ slot :: slots, Reads other.tree other.text)
    (enough : (slot.chars ++ more (spacing ++ [']']) (slots.map Slot.chars)).length ≤ limit) :
    readItems limit (slot.chars ++ (more (spacing ++ [']']) (slots.map Slot.chars) ++ rest)) =
      ((slot :: slots).map Slot.tree, some rest) := by
  induction slots generalizing slot limit with
  | nil =>
      obtain _ | limit := limit
      · simp [more] at enough
      simp only [more, List.map_nil, Slot.chars, List.length_append, List.length_cons] at enough ⊢
      have here := reads slot List.mem_cons_self limit (spacing ++ [']'] ++ rest) (by omega)
      rw [List.append_assoc]
      exact readItems_last ((readValue_append limit slot.isSpacing _).trans here)
        (skipSpace_closing isSpacing (by decide) rest)
  | cons next slots ih =>
      obtain _ | limit := limit
      · simp [more] at enough
      simp only [more, List.map_cons, List.length_append, List.length_cons] at enough ⊢
      have later := ih (fun other member => reads other (List.mem_cons_of_mem slot member))
        (by rw [List.length_append]; omega : _ ≤ limit)
      have here := reads slot List.mem_cons_self limit
        (',' :: (next.chars ++ (more (spacing ++ [']']) (slots.map Slot.chars) ++ rest)))
        (by rw [Slot.chars, List.length_append] at enough; omega)
      rw [Slot.chars, List.append_assoc, List.cons_append, List.append_assoc]
      exact readItems_next ((readValue_append limit slot.isSpacing _).trans here)
        (skipSpace_cons (by decide) _) later

/-- If the text of every value is read back, so are all entries up to the closing brace. -/
theorem readEntries_more {entry : Entry} {entries : List Entry} {limit : Nat} (rest : List Char)
    (reads : ∀ other ∈ entry :: entries, Reads other.tree other.text)
    (enough : (entry.chars ++ more (spacing ++ ['}']) (entries.map Entry.chars)).length ≤ limit) :
    readEntries limit (entry.chars ++ (more (spacing ++ ['}']) (entries.map Entry.chars) ++ rest)) =
      ((entry :: entries).map Entry.pair, some rest) := by
  induction entries generalizing entry limit with
  | nil =>
      obtain _ | limit := limit
      · simp [more] at enough
      simp only [more, List.map_nil, List.length_append, List.length_cons] at enough ⊢
      have here := reads entry List.mem_cons_self limit (spacing ++ ['}'] ++ rest)
        (by have := entry.length_text_lt; omega)
      exact readEntries_last here (skipSpace_closing isSpacing (by decide) rest)
  | cons next entries ih =>
      obtain _ | limit := limit
      · simp [more] at enough
      simp only [more, List.map_cons, List.length_append, List.length_cons] at enough ⊢
      have later := ih (fun other member => reads other (List.mem_cons_of_mem entry member))
        (by rw [List.length_append]; omega : _ ≤ limit)
      have here := reads entry List.mem_cons_self limit
        (',' :: (next.chars ++ (more (spacing ++ ['}']) (entries.map Entry.chars) ++ rest)))
        (by have := entry.length_text_lt; omega)
      rw [List.cons_append, List.append_assoc]
      exact readEntries_next here (skipSpace_cons (by decide) _) later

end Lists

section Values

variable {limit : Nat} {text rest : List Char} {c : Char}

/-- Items are read where the list is not closed at once. -/
theorem readValue_list {items : List DataTree} (head : (skipSpace text).head? = some c)
    (ne : c ≠ ']') (read : readItems limit text = (items, some rest)) :
    readValue (limit + 1) ('[' :: text) = (.list items, some rest) := by
  rw [readValue, skipSpace_cons (by decide)]
  simp only [read]
  split
  · rename_i closed
    rw [closed, List.head?_cons, Option.some.injEq] at head
    exact absurd head.symm ne
  · rfl

/-- Entries are read where the map is not closed at once. -/
theorem readValue_map {entries : List (String × DataTree)}
    (head : (skipSpace text).head? = some c) (ne : c ≠ '}')
    (read : readEntries limit text = (entries, some rest)) :
    readValue (limit + 1) ('{' :: text) = (.map entries, some rest) := by
  rw [readValue, skipSpace_cons (by decide)]
  simp only [read]
  split
  · rename_i closed
    rw [closed, List.head?_cons, Option.some.injEq] at head
    exact absurd head.symm ne
  · rfl

end Values

/-- Whatever the layout, the text of a tree is read back as the tree. -/
theorem Writes.reads {tree : DataTree} {text : List Char} (writes : Writes tree text) :
    Reads tree text := by
  induction writes with
  | null | yes | no | emptyList | emptyMap =>
      intro limit rest enough
      obtain _ | limit := limit
      · simp at enough
      rfl
  | text value =>
      intro limit rest enough
      obtain _ | limit := limit
      · simp [stringChars] at enough
      have read := readString_stringChars value.toList rest
      rw [String.ofList_toList] at read
      rw [stringChars, List.cons_append, List.append_assoc, readValue, skipSpace_cons (by decide)]
      simp only [List.singleton_append, read]
  | @list first others spacing written isSpacing ih =>
      intro limit rest enough
      obtain _ | limit := limit
      · simp at enough
      have read := readItems_more isSpacing rest ih (by simpa using enough : _ ≤ limit)
      obtain ⟨c, after, same, visible, ne⟩ := (written first List.mem_cons_self).head
      rw [List.cons_append, List.append_assoc]
      refine readValue_list (c := c) ?_ ne read
      rw [Slot.chars, same, List.append_assoc, skipSpace_append first.isSpacing, List.cons_append,
        skipSpace_cons visible, List.head?_cons]
  | @map first others spacing written isSpacing ih =>
      intro limit rest enough
      obtain _ | limit := limit
      · simp at enough
      have read := readEntries_more isSpacing rest ih (by simpa using enough : _ ≤ limit)
      rw [List.cons_append, List.append_assoc]
      refine readValue_map (c := '"') ?_ (by decide) read
      rw [first.skipSpace_chars, List.head?_cons]

/-- A text that writes a tree is a document with the tree, whatever blanks stand around it. -/
theorem Writes.read {tree : DataTree} {front text back : List Char} (writes : Writes tree text)
    (front_spacing : IsSpacing front) (back_spacing : IsSpacing back) :
    read (String.ofList (front ++ (text ++ back))) = ⟨tree, true⟩ := by
  have enough : text.length ≤ 2 * (front ++ (text ++ back)).length + 2 := by
    simp only [List.length_append]
    omega
  have nothing : skipSpace back = [] := by
    simpa [skipSpace] using skipSpace_append back_spacing []
  rw [Json.read, String.length_ofList, String.toList_ofList,
    readValue_append _ front_spacing, writes.reads _ back enough]
  simp [nothing]

/-! ### What the writers write -/

/-- The tree holds no numbers, and nothing in it is at fault. -/
inductive IsVerbal : DataTree → Prop
  | null : IsVerbal .null
  | bool (value : Bool) : IsVerbal (.bool value)
  | text (value : String) : IsVerbal (.text value)
  | list {items : List DataTree} (verbal : ∀ item ∈ items, IsVerbal item) : IsVerbal (.list items)
  | map {entries : List (String × DataTree)} (verbal : ∀ entry ∈ entries, IsVerbal entry.2) :
      IsVerbal (.map entries)

section Layout

variable {lead between spacing : List Char} {write : DataTree → List Char}

/-- The text of an entry with blanks in front of the key and of the value. -/
def entryText (lead between : List Char) (write : DataTree → List Char)
    (entry : String × DataTree) : List Char :=
  lead ++ (stringChars entry.1.toList ++ ':' :: (between ++ write entry.2))

/-- A list with the same blanks in front of every item. -/
theorem Writes.listOf {first : DataTree} {rest : List DataTree}
    (lead_spacing : IsSpacing lead) (isSpacing : IsSpacing spacing)
    (written : ∀ item ∈ first :: rest, Writes item (write item)) :
    Writes (.list (first :: rest)) ('[' :: (lead ++ write first ++
      more (spacing ++ [']']) (rest.map fun item => lead ++ write item))) := by
  let slot (item : DataTree) : Slot := ⟨lead, item, write item, lead_spacing⟩
  have writes : Writes (.list ((slot first :: rest.map slot).map Slot.tree)) _ := .list
    (by rw [← List.map_cons]; exact List.forall_mem_map.mpr written) isSpacing
  rw [← List.map_cons, List.map_map, List.map_map] at writes
  have trees : (first :: rest).map (Slot.tree ∘ slot) = first :: rest := List.map_id _
  rwa [trees] at writes

/-- A map with the same blanks in front of every key and of every value. -/
theorem Writes.mapOf {first : String × DataTree} {rest : List (String × DataTree)}
    (lead_spacing : IsSpacing lead) (between_spacing : IsSpacing between)
    (isSpacing : IsSpacing spacing)
    (written : ∀ entry ∈ first :: rest, Writes entry.2 (write entry.2)) :
    Writes (.map (first :: rest)) ('{' :: (entryText lead between write first ++
      more (spacing ++ ['}']) (rest.map (entryText lead between write)))) := by
  let place (entry : String × DataTree) : Entry :=
    ⟨⟨between, entry.2, write entry.2, between_spacing⟩, lead, entry.1, lead_spacing⟩
  have writes : Writes (.map ((place first :: rest.map place).map Entry.pair)) _ := .map
    (by rw [← List.map_cons]; exact List.forall_mem_map.mpr written) isSpacing
  rw [← List.map_cons, List.map_map, List.map_map] at writes
  have pairs : (first :: rest).map (Entry.pair ∘ place) = first :: rest := List.map_id _
  rwa [pairs] at writes

end Layout

theorem compactMoreItems_eq_more (items : List DataTree) :
    compactMoreItems items = more [']'] (items.map compactChars) := by
  induction items with
  | nil => rfl
  | cons first rest ih => rw [compactMoreItems, ih, List.map_cons, more, List.cons_append]

theorem compactEntry_eq_entryText : compactEntry = entryText [] [] compactChars := by
  funext ⟨key, value⟩
  rw [compactEntry, entryText, List.nil_append, List.nil_append]

theorem compactMoreEntries_eq_more (entries : List (String × DataTree)) :
    compactMoreEntries entries = more ['}'] (entries.map compactEntry) := by
  induction entries with
  | nil => rfl
  | cons first rest ih => rw [compactMoreEntries, ih, List.map_cons, more, List.cons_append]

/-- Without blanks, the tree is written. -/
theorem writes_compactChars {tree : DataTree} (verbal : IsVerbal tree) :
    Writes tree (compactChars tree) := by
  have nothing : IsSpacing [] := by simp [IsSpacing]
  induction verbal with
  | null => exact .null
  | bool value =>
      cases value with
      | false => exact .no
      | true => exact .yes
  | text value => exact .text value
  | @list items _ ih =>
      obtain _ | ⟨first, rest⟩ := items
      · exact .emptyList
      · rw [compactChars, compactItems, compactMoreItems_eq_more]
        exact .listOf nothing nothing ih
  | @map entries _ ih =>
      obtain _ | ⟨first, rest⟩ := entries
      · exact .emptyMap
      · rw [compactChars, compactEntries, compactMoreEntries_eq_more, compactEntry_eq_entryText]
        exact .mapOf nothing nothing nothing ih

theorem isSpacing_lineBreak (level : Nat) : IsSpacing (lineBreak level).toList := by
  rw [lineBreak, String.toList_append, Text.toList_repeated]
  refine List.forall_mem_append.mpr ⟨by simp [isSpace], fun c member => ?_⟩
  obtain ⟨blanks, copied, inside⟩ := List.mem_flatten.mp member
  obtain rfl := List.eq_of_mem_replicate copied
  obtain rfl : c = ' ' := by simpa using inside
  rfl

theorem toList_prettyItems (level : Nat) (items : List DataTree) (closing : List Char) :
    (prettyItems level items).toList ++ closing = more closing
      (items.map fun item => (lineBreak level).toList ++ (pretty level item).toList) := by
  induction items with
  | nil => simp [prettyItems, more]
  | cons first rest ih => simp [prettyItems, more, ih]

theorem toList_prettyEntry (level : Nat) (lead : List Char) (entry : String × DataTree) :
    lead ++ (prettyEntry level entry).toList =
      entryText lead [' '] (fun value => (pretty level value).toList) entry := by
  obtain ⟨key, value⟩ := entry
  simp [prettyEntry, entryText, stringText]

theorem toList_prettyEntries (level : Nat) (entries : List (String × DataTree))
    (closing : List Char) :
    (prettyEntries level entries).toList ++ closing = more closing (entries.map
      (entryText (lineBreak level).toList [' '] fun value => (pretty level value).toList)) := by
  induction entries with
  | nil => simp [prettyEntries, more]
  | cons first rest ih => simp [prettyEntries, more, ih, toList_prettyEntry]

/-- Spread over lines, the tree is written, at any level. -/
theorem writes_pretty {tree : DataTree} (verbal : IsVerbal tree) (level : Nat) :
    Writes tree (pretty level tree).toList := by
  induction verbal generalizing level with
  | null | bool value | text value =>
      rw [pretty, compact, String.toList_ofList]
      · exact writes_compactChars (by constructor)
      all_goals simp
  | @list items _ ih =>
      obtain _ | ⟨first, rest⟩ := items
      · simpa [pretty] using Writes.emptyList
      · have text : (pretty level (.list (first :: rest))).toList =
            '[' :: ((lineBreak (level + 1)).toList ++ (pretty (level + 1) first).toList ++
              ((prettyItems (level + 1) rest).toList ++ ((lineBreak level).toList ++ [']']))) := by
          simp [pretty]
        rw [text, toList_prettyItems]
        exact .listOf (isSpacing_lineBreak _) (isSpacing_lineBreak _)
          fun item member => ih item member (level + 1)
  | @map entries _ ih =>
      obtain _ | ⟨first, rest⟩ := entries
      · simpa [pretty] using Writes.emptyMap
      · have text : (pretty level (.map (first :: rest))).toList =
            '{' :: ((lineBreak (level + 1)).toList ++ (prettyEntry (level + 1) first).toList ++
              ((prettyEntries (level + 1) rest).toList ++
                ((lineBreak level).toList ++ ['}']))) := by
          simp [pretty]
        rw [text, toList_prettyEntries, toList_prettyEntry]
        exact .mapOf (isSpacing_lineBreak _) (by simp [IsSpacing, isSpace]) (isSpacing_lineBreak _)
          fun entry member => ih entry member (level + 1)

end Json
end ValueMethods
