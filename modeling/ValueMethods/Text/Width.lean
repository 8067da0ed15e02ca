import ValueMethods.Text.EmojiTables
import ValueMethods.Text.Split
import ValueMethods.Text.WidthTables

/-!
# Width of text

How many columns of a terminal a text takes, and filling a text up to a width.  Most characters take
the same number of columns wherever they stand.  Some join with what follows them: an emoji is shown
once for a whole sequence, some scripts write two letters as one, and a selector changes how the
character before it is shown.  So the columns a character adds depend on how the text after it
begins, and `Opening.before` gives both: the columns, and how the longer text begins.
-/

namespace ValueMethods
namespace Text

/-- The columns a character takes where nothing joins it. -/
def charWidth (c : Char) : Nat :=
  let codePoint := c.toNat
  if codePoint ≤ 0xA0 then 1
  else if codePoint = 0x17D8 then 3
  else if codePoint = 0x115F || codePoint = 0x17A4 then 2
  else if codePoint = 0x2D7F then 1
  else if isIgnorable c || isExtending c || inRanges conjoiningRanges codePoint ||
      inRanges overlaidRanges codePoint then 0
  else if inRanges wideRanges codePoint then 2
  else 1

/-- How a selector asks for the character before it to be shown. -/
inductive Presentation where
  | text
  | emoji
  deriving DecidableEq

/-- A letter, or the end of a sequence of letters, that a letter before it may join. -/
inductive Joint where
  /-- An Arabic letter of the shape of alef, which lam joins. -/
  | alef
  /-- Hebrew lamed, which alef joins across a joiner. -/
  | lamed (joined : Bool)
  /-- Buginese ya, which a syllable of the letter a and the vowel i joins across a joiner. -/
  | ya (joined : Bool)
  /-- Buginese ya behind the vowel i and a joiner. -/
  | vowelYa
  /-- A Khmer letter that has a form below another letter. -/
  | subjoinable
  /-- A Tifinagh consonant, which a consonant joins across a joiner. -/
  | consonant (joined : Bool)
  /-- A Tifinagh consonant behind the joiner of that script. -/
  | joinedConsonant
  /-- The second letter of a Lisu tone. -/
  | tone
  /-- Old Turkic i, which z joins across a joiner. -/
  | orkhonI (joined : Bool)
  /-- A run of Kirat Rai vowel signs e whose number is even or odd, a vowel sign ai being two. -/
  | vowelRun (even : Bool)
  deriving DecidableEq

/-- How a text begins, as far as the character before it is concerned. -/
inductive Opening where
  /-- With nothing that joins the character before it. -/
  | plain
  /-- With a line feed, which shares its column with a carriage return. -/
  | lineFeed
  /-- With a skin tone. -/
  | skinTone
  /-- With a regional indicator, or with several. -/
  | indicators (several : Bool)
  /-- With an emoji. -/
  | emoji
  /-- With a joiner and an emoji. -/
  | joinedEmoji
  /-- With the frame of a key, a joiner and an emoji. -/
  | joinedKey
  /-- With a regional indicator, a joiner and an emoji. -/
  | joinedIndicator
  /-- With two regional indicators or more, their number being even or odd, a joiner and an
  emoji. -/
  | joinedIndicators (even : Bool)
  /-- With the end of a tag sequence of so many digits and then so many letters, a joiner and an
  emoji. -/
  | joinedTags (digits letters : Nat)
  /-- With letters that may join a letter. -/
  | joint (joint : Joint)
  /-- With a selector, and how the text goes on after it. -/
  | selector (presentation : Presentation) (rest : Opening)
  deriving DecidableEq

namespace Joint

/-- The letters behind a joiner.  Lam does not join alef across a joiner. -/
def behindJoiner : Joint → Option Joint
  | alef => none
  | lamed _ => some (lamed true)
  | ya _ => some (ya true)
  | consonant _ => some (consonant true)
  | orkhonI _ => some (orkhonI true)
  | other => some other

/-- The letters behind a mark: those other than alef are joined across the ignorable marks alone,
alef across all characters without a column that are transparent. -/
def behindMark (c : Char) : Joint → Option Joint
  | alef =>
    if charWidth c = 0 && !inRanges interruptingRanges c.toNat then some alef else none
  | other => if inRanges ignorableMarkRanges c.toNat then some other else none

/-- Whether a code point is a Tifinagh consonant. -/
def isConsonant (codePoint : Nat) : Bool :=
  inRanges [(0x2D31, 0x2D65), (0x2D6F, 0x2D6F)] codePoint

/-- What a letter that joins the letters adds to their columns, and how the text begins with it. -/
def join? (codePoint : Nat) : Joint → Option (Int × Opening)
  | alef =>
    if inRanges [(0x644, 0x644), (0x6B5, 0x6B8), (0x76A, 0x76A), (0x8A6, 0x8A6), (0x8C7, 0x8C7)]
        codePoint then
      some (0, .plain)
    else none
  | lamed true => if codePoint = 0x5D0 then some (0, .plain) else none
  | ya true => if codePoint = 0x1A17 then some (0, .joint vowelYa) else none
  | vowelYa => if codePoint = 0x1A15 then some (0, .plain) else none
  | subjoinable => if codePoint = 0x17D2 then some (-1, .plain) else none
  | consonant joined =>
    if codePoint = 0x2D7F then some (1, .joint joinedConsonant)
    else if joined && isConsonant codePoint then some (0, .plain)
    else none
  | joinedConsonant => if isConsonant codePoint then some (-1, .plain) else none
  | tone => if inRanges [(0xA4F8, 0xA4FB)] codePoint then some (0, .plain) else none
  | orkhonI true => if codePoint = 0x10C32 then some (0, .plain) else none
  | vowelRun even =>
    if codePoint = 0x16D63 then some (0, .plain)
    else if even then none
    else if codePoint = 0x16D67 then some (0, .joint (vowelRun true))
    else if codePoint = 0x16D68 then some (1, .joint (vowelRun false))
    else if codePoint = 0x16D69 then some (0, .plain)
    else none
  | _ => none

/-- The letters that a character begins, where nothing joins it. -/
def ofCodePoint (codePoint : Nat) : Option Joint :=
  if inRanges [(0x622, 0x623), (0x625, 0x625), (0x627, 0x627), (0x671, 0x673), (0x675, 0x675),
      (0x773, 0x774), (0x870, 0x882)] codePoint then
    some alef
  else if codePoint = 0x5DC then some (lamed false)
  else if codePoint = 0x1A10 then some (ya false)
  else if inRanges [(0x1780, 0x1782), (0x1784, 0x1787), (0x1789, 0x178C), (0x178E, 0x1793),
      (0x1795, 0x1798), (0x179B, 0x179D), (0x17A0, 0x17A0), (0x17A2, 0x17A2), (0x17A7, 0x17A7),
      (0x17AB, 0x17AC), (0x17AF, 0x17AF)] codePoint then
    some subjoinable
  else if isConsonant codePoint then some (consonant false)
  else if inRanges [(0xA4FC, 0xA4FD)] codePoint then some tone
  else if codePoint = 0x10C03 then some (orkhonI false)
  else if codePoint = 0x16D67 then some (vowelRun false)
  else if codePoint = 0x16D68 then some (vowelRun true)
  else none

end Joint

/-- Whether a code point is a regional indicator, two of which are a flag. -/
def isIndicator (codePoint : Nat) : Bool :=
  inRanges [(0x1F1E6, 0x1F1FF)] codePoint

/-- Whether a code point is a skin tone. -/
def isSkinTone (codePoint : Nat) : Bool :=
  inRanges [(0x1F3FB, 0x1F3FF)] codePoint

/-- Whether a selector shows a code point as text that is an emoji without it.  The squared
ideographs stay wide as text. -/
def isTextual (codePoint : Nat) : Bool :=
  inRanges selectableRanges codePoint && inRanges emojiRanges codePoint &&
    !inRanges [(0x1F200, 0x1F2FF)] codePoint

namespace Opening

/-- How a text begins with a character that nothing joins. -/
def ofChar (c : Char) : Opening :=
  let codePoint := c.toNat
  if c = '\n' then lineFeed
  else if codePoint = 0xFE0E then selector .text plain
  else if codePoint = 0xFE0F then selector .emoji plain
  else if isIndicator codePoint then indicators false
  else if isSkinTone codePoint then skinTone
  else if inRanges emojiRanges codePoint then emoji
  else (Joint.ofCodePoint codePoint).elim plain joint

/-- What is left of an opening behind a selector: letters join across every selector, and an emoji
sequence goes on across the one that asks for an emoji. -/
def behindSelector : Presentation → Opening → Opening
  | _, joint letters => joint letters
  | .emoji, joinedEmoji => joinedEmoji
  | .emoji, joinedKey => joinedKey
  | _, _ => plain

/-- What is left of an opening before a character that its selector does not belong to. -/
def withoutSelector : Opening → Opening
  | selector _ rest => behindSelector .text rest
  | other => other

/-- Whether the text goes on with a joiner and an emoji. -/
def isJoined : Opening → Bool
  | joinedEmoji | joinedKey => true
  | _ => false

/-- What a character that an emoji sequence takes up adds to its columns. -/
def extend? (codePoint : Nat) : Opening → Option (Int × Opening)
  | skinTone =>
    if inRanges modifierBaseRanges codePoint then some (0, emoji)
    else if codePoint = 0x200D then some (0, joinedEmoji)
    else none
  | indicators several =>
    if isIndicator codePoint then some (1, indicators true)
    else if several && codePoint = 0x200D then some (0, joinedEmoji)
    else none
  | emoji => if codePoint = 0x200D then some (0, joinedEmoji) else none
  | joinedEmoji =>
    if codePoint = 0x20E3 then some (0, joinedKey)
    else if isIndicator codePoint then some (1, joinedIndicator)
    else if isSkinTone codePoint then some (0, skinTone)
    else if codePoint = 0xE007F then some (0, joinedTags 0 0)
    else if inRanges emojiRanges codePoint then some (0, emoji)
    else none
  | joinedIndicator => if isIndicator codePoint then some (-1, joinedIndicators true) else none
  | joinedIndicators even =>
    if isIndicator codePoint then some (if even then 3 else -1, joinedIndicators !even)
    else if codePoint = 0x200D then some (0, joinedEmoji)
    else none
  | joinedTags digits letters =>
    if inRanges [(0xE0061, 0xE007A)] codePoint && digits = 0 && letters < 6 then
      some (0, joinedTags 0 (letters + 1))
    else if inRanges [(0xE0030, 0xE0039)] codePoint && digits < 3 && letters < 5 then
      some (0, joinedTags (digits + 1) letters)
    else if codePoint = 0x1F3F4 && (digits = 3 || (digits = 0 && 3 ≤ letters)) then some (0, emoji)
    else none
  | _ => none

/-- What a character adds to the columns of a text that it joins, and how the longer text begins. -/
def take? (c : Char) : Opening → Option (Int × Opening)
  | joint letters =>
    if c.toNat = 0x200D then letters.behindJoiner.map fun rest => (0, joint rest)
    else
      match letters.behindMark c with
      | some rest => some (0, joint rest)
      | none => letters.join? c.toNat
  | other => extend? c.toNat other

/-- What a character adds to the columns of a text, and how the longer text begins. -/
def before (c : Char) (opening : Opening) : Int × Opening :=
  let alone := (((charWidth c : Nat) : Int), ofChar c)
  match c, opening with
  | '\r', lineFeed => (0, plain)
  | _, selector .emoji rest =>
    if inRanges selectableRanges c.toNat then (if rest.isJoined then 0 else 2, emoji)
    else goOn c (withoutSelector opening) alone
  | _, selector .text _ =>
    if isTextual c.toNat then (1, plain) else goOn c (withoutSelector opening) alone
  | _, _ => goOn c opening alone
where
  /-- The character in front of a text that does not begin with a selector. -/
  goOn (c : Char) (opening : Opening) (alone : Int × Opening) : Int × Opening :=
    if c.toNat ≤ 0xA0 then alone
    else if c.toNat = 0xFE0E then (0, selector .text (behindSelector .text opening))
    else if c.toNat = 0xFE0F then (0, selector .emoji (behindSelector .emoji opening))
    else (take? c opening).getD alone

end Opening

/-! ## Whole texts -/

/-- The columns of a text and how it begins. -/
def measure (text : List Char) : Int × Opening :=
  text.foldr (fun c rest =>
    let added := rest.2.before c
    (added.1 + rest.1, added.2)) (0, .plain)

/-- The number of columns a text takes. -/
def width (text : String) : Nat :=
  (measure text.toList).1.toNat

/-- A text with blanks after it so that it takes `columns` columns, if it is shorter. -/
def padTo (columns : Nat) (text : String) : String :=
  text ++ repeated (columns - width text) " "

end Text
end ValueMethods
