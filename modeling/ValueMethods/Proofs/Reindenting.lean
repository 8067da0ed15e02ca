import Mathlib.Data.List.DropRight
import Mathlib.Data.List.Forall2
import Mathlib.Order.Bounds.Basic
import ValueMethods.Proofs.PathNames
import ValueMethods.Source.Reindent

/-!
# Code at a new margin

Moving a block of source to another margin keeps the code: every line of the block stays a line,
and all that it may lose are blanks in front.  As long as lines are indented with spaces and
tabulators, all lose as many, so they keep their places relative to each other.  The margin is
measured in bytes, and never reaches beyond the blanks of a line that is not empty.
-/

namespace ValueMethods
namespace Source

/-! ### The lines of a block -/

/-- The core is the text without the line feeds at both ends. -/
structure IsCore (text core : List Char) : Prop where
  surrounded : ∃ above below, text = above ++ (core ++ below) ∧
    (∀ c ∈ above, c = '\n') ∧ ∀ c ∈ below, c = '\n'
  head_ne : ∀ c ∈ core.head?, c ≠ '\n'
  last_ne : ∀ c ∈ core.getLast?, c ≠ '\n'

/-- The rows are the text cut at every line feed.  Where there is no text, there are no rows. -/
structure IsCutAtLineFeeds (text : List Char) (rows : List (List Char)) : Prop where
  joined : ['\n'].intercalate rows = text
  whole : ∀ row ∈ rows, '\n' ∉ row
  nothing : text = [] → rows = []

/-- The line is the row without the blanks at its end. -/
structure IsTrimmed (row line : List Char) : Prop where
  blanks : ∃ back, row = line ++ back ∧ ∀ c ∈ back, Text.isBlank c = true
  visible : ∀ c ∈ line.getLast?, Text.isBlank c = false

/-- The lines are those of the text between the line feeds at its ends, without the blanks at their
own ends. -/
def HasLines (text : List Char) (lines : List (List Char)) : Prop :=
  ∃ core rows, IsCore text core ∧ IsCutAtLineFeeds core rows ∧ List.Forall₂ IsTrimmed rows lines

section Trimming

variable {p : Char → Bool} {text front back : List Char}

theorem exists_eq_rdropWhile_append (p : Char → Bool) (text : List Char) :
    ∃ back, text = text.rdropWhile p ++ back ∧ ∀ c ∈ back, p c = true :=
  ⟨text.rtakeWhile p, List.rdropWhile_append_rtakeWhile.symm,
    fun _ member => List.mem_takeWhile_imp (List.mem_reverse.mp member)⟩

theorem rdropWhile_last {c : Char} (last : c ∈ (text.rdropWhile p).getLast?) : p c = false := by
  obtain ⟨ne, rfl⟩ := List.mem_getLast?_eq_getLast last
  exact Bool.eq_false_iff.mpr (List.rdropWhile_last_not p text ne)

theorem dropWhile_append_eq (all : ∀ c ∈ front, p c = true)
    (first : ∀ c ∈ back.head?, p c = false) : (front ++ back).dropWhile p = back := by
  rw [List.dropWhile_append_of_pos all]
  cases back with
  | nil => rfl
  | cons c back => exact List.dropWhile_cons_of_neg (by simp [first c rfl])

theorem rdropWhile_append_eq (all : ∀ c ∈ back, p c = true)
    (last : ∀ c ∈ front.getLast?, p c = false) : (front ++ back).rdropWhile p = front := by
  rw [List.rdropWhile, List.reverse_append, dropWhile_append_eq (by simpa using all)
    (by simpa using last), List.reverse_reverse]

end Trimming

section Lines

variable {text core row line : List Char} {rows lines : List (List Char)}

theorem isCore_dropOuterLineFeeds (text : List Char) : IsCore text (dropOuterLineFeeds text) := by
  let feed (c : Char) : Bool := c = '\n'
  have core : dropOuterLineFeeds text = (text.dropWhile feed).rdropWhile feed := rfl
  obtain ⟨below, split, below_feeds⟩ := exists_eq_rdropWhile_append feed (text.dropWhile feed)
  rw [core]
  refine ⟨⟨text.takeWhile feed, below, ?_, fun c member => ?_, fun c member => ?_⟩,
    fun c head => ?_, fun c last => ?_⟩
  · rw [← split, List.takeWhile_append_dropWhile]
  · simpa [feed] using List.mem_takeWhile_imp member
  · exact of_decide_eq_true (below_feeds c member)
  · -- the core is in front of what is left below, so both start with the same character
    have first : c ∈ (text.dropWhile feed).head? := by
      rw [split]
      exact List.mem_head?_append_of_mem_head? head
    have other := List.head?_dropWhile_not feed text
    rw [Option.mem_def.mp first] at other
    exact of_decide_eq_false other
  · exact of_decide_eq_false (rdropWhile_last last)

theorem IsCore.eq_dropOuterLineFeeds (isCore : IsCore text core) :
    core = dropOuterLineFeeds text := by
  obtain ⟨above, below, rfl, above_feeds, below_feeds⟩ := isCore.surrounded
  let feed (c : Char) : Bool := c = '\n'
  have trimmed : (core ++ below).rdropWhile feed = core :=
    rdropWhile_append_eq (by simpa [feed] using below_feeds) (by simpa [feed] using isCore.last_ne)
  change core = ((above ++ (core ++ below)).dropWhile feed).rdropWhile feed
  rw [List.dropWhile_append_of_pos (by simpa [feed] using above_feeds)]
  cases core with
  | nil =>
      have gone : ([] ++ below).dropWhile feed = [] :=
        List.dropWhile_eq_nil_iff.mpr (by simpa [feed] using below_feeds)
      rw [gone, List.rdropWhile_nil]
  | cons c core =>
      have stays : (c :: core ++ below).dropWhile feed = c :: core ++ below :=
        List.dropWhile_cons_of_neg (by simpa [feed] using isCore.head_ne c rfl)
      rw [stays, trimmed]

theorem isCutAtLineFeeds_splitOn (ne : text ≠ []) :
    IsCutAtLineFeeds text (Text.splitOn '\n' text) where
  joined := by rw [Text.splitOn_eq_splitOn, List.intercalate_splitOn]
  whole _ member := Text.not_mem_of_mem_splitOn member
  nothing empty := absurd empty ne

theorem IsCutAtLineFeeds.eq_splitOn (cut : IsCutAtLineFeeds text rows) (ne : text ≠ []) :
    rows = Text.splitOn '\n' text := by
  have some_row : rows ≠ [] := by
    rintro rfl
    exact ne cut.joined.symm
  rw [Text.splitOn_eq_splitOn, ← cut.joined, List.splitOn_intercalate _ cut.whole some_row]

theorem isTrimmed_iff : IsTrimmed row line ↔ line = Text.trimRight row := by
  constructor
  · rintro ⟨⟨back, rfl, blanks⟩, visible⟩
    exact (rdropWhile_append_eq blanks visible).symm
  · rintro rfl
    exact ⟨exists_eq_rdropWhile_append Text.isBlank row, fun _ last => rdropWhile_last last⟩

theorem forall₂_isTrimmed_iff :
    List.Forall₂ IsTrimmed rows lines ↔ rows.map Text.trimRight = lines := by
  rw [← List.forall₂_eq_eq_eq, List.forall₂_map_left_iff]
  constructor
  · exact fun trimmed => trimmed.imp fun _ _ one => (isTrimmed_iff.mp one).symm
  · exact fun same => same.imp fun _ _ one => isTrimmed_iff.mpr one.symm

theorem blockLines_of_ne_nil (ne : dropOuterLineFeeds text ≠ []) :
    blockLines text = (Text.splitOn '\n' (dropOuterLineFeeds text)).map Text.trimRight := by
  rw [blockLines]
  split
  · contradiction
  · rename_i same
    rw [same]

/-- The lines of a text are those of its block, and no others. -/
theorem hasLines_iff : HasLines text lines ↔ lines = blockLines text := by
  constructor
  · rintro ⟨core, rows, isCore, cut, trimmed⟩
    obtain rfl := isCore.eq_dropOuterLineFeeds
    obtain rfl := forall₂_isTrimmed_iff.mp trimmed
    by_cases empty : dropOuterLineFeeds text = []
    · rw [cut.nothing empty, blockLines, empty, List.map_nil]
    · rw [blockLines_of_ne_nil empty, cut.eq_splitOn empty]
  · rintro rfl
    have isCore := isCore_dropOuterLineFeeds text
    by_cases empty : dropOuterLineFeeds text = []
    · refine ⟨_, [], isCore, ⟨empty.symm, by simp, fun _ => rfl⟩, ?_⟩
      rw [blockLines, empty]
      exact .nil
    · refine ⟨_, _, isCore, isCutAtLineFeeds_splitOn empty, ?_⟩
      exact forall₂_isTrimmed_iff.mpr (blockLines_of_ne_nil empty).symm

/-- A line of a block has no line feed, and does not end in a blank. -/
theorem HasLines.shape (has : HasLines text lines) (member : line ∈ lines) :
    '\n' ∉ line ∧ ∀ c ∈ line.getLast?, Text.isBlank c = false := by
  obtain ⟨core, rows, -, cut, trimmed⟩ := has
  obtain rfl := forall₂_isTrimmed_iff.mp trimmed
  obtain ⟨row, inside, same⟩ := List.mem_map.mp member
  obtain ⟨⟨back, rfl, -⟩, visible⟩ := isTrimmed_iff.mpr same.symm
  exact ⟨fun feed => cut.whole _ inside (List.mem_append_left back feed), visible⟩

end Lines

/-! ### The margin -/

/-- The rest of the line is what is left without some of the blanks in front. -/
def LosesBlanks (line rest : List Char) : Prop :=
  ∃ blanks, line = blanks ++ rest ∧ ∀ c ∈ blanks, Text.isBlank c = true

section Margin

variable {c : Char} {line rest : List Char}

theorem indentBytes_cons_of_blank (blank : Text.isBlank c = true) :
    indentBytes (c :: rest) = c.utf8Size + indentBytes rest := by
  rw [indentBytes, List.takeWhile_cons_of_pos blank]
  rfl

theorem indentBytes_cons_of_visible (visible : Text.isBlank c = false) :
    indentBytes (c :: rest) = 0 := by
  rw [indentBytes, List.takeWhile_cons_of_neg (by simp [visible])]
  rfl

/-- Dropping no more bytes than there are bytes of blanks in front drops blanks only. -/
theorem dropBytes?_losesBlanks {count : Nat} (within : count ≤ indentBytes line)
    (dropped : dropBytes? count line = some rest) : LosesBlanks line rest := by
  fun_induction dropBytes? count line with
  | case1 line =>
      obtain rfl := Option.some.inj dropped
      exact ⟨[], rfl, by simp⟩
  | case2 count => simp at dropped
  | case3 count c line fits ih =>
      cases blank : Text.isBlank c with
      | false => simp [indentBytes_cons_of_visible blank] at within
      | true =>
          rw [indentBytes_cons_of_blank blank] at within
          obtain ⟨blanks, rfl, all_blank⟩ := ih (by omega) dropped
          exact ⟨c :: blanks, rfl, by simpa [blank] using all_blank⟩
  | case4 count c line exceeds => simp at dropped

theorem trimLeft_losesBlanks (line : List Char) : LosesBlanks line (Text.trimLeft line) :=
  ⟨line.takeWhile Text.isBlank, List.takeWhile_append_dropWhile.symm,
    fun _ member => List.mem_takeWhile_imp member⟩

theorem withoutMargin_losesBlanks {margin : Nat} (within : margin ≤ indentBytes line) :
    LosesBlanks line (withoutMargin margin line) := by
  rw [withoutMargin]
  cases dropped : dropBytes? margin line with
  | none => exact trimLeft_losesBlanks line
  | some rest => exact dropBytes?_losesBlanks within dropped

end Margin

section Common

variable {lines : List (List Char)} {line : List Char}

theorem commonMargin_le (member : line ∈ lines) (ne : line ≠ []) :
    commonMargin lines ≤ indentBytes line :=
  List.min?_getD_le_of_mem (List.mem_map_of_mem (List.mem_filter.mpr ⟨member, by simpa using ne⟩))

theorem exists_indentBytes_eq_commonMargin (member : line ∈ lines) (ne : line ≠ []) :
    ∃ least ∈ lines, least ≠ [] ∧ indentBytes least = commonMargin lines := by
  have measured : indentBytes line ∈ (lines.filter fun line => !line.isEmpty).map indentBytes :=
    List.mem_map_of_mem (List.mem_filter.mpr ⟨member, by simpa using ne⟩)
  obtain ⟨margin, found⟩ := Option.ne_none_iff_exists'.mp fun none =>
    List.ne_nil_of_mem measured (List.min?_eq_none_iff.mp none)
  obtain ⟨least, kept, same⟩ := List.mem_map.mp (List.min?_mem found)
  obtain ⟨inside, filled⟩ := List.mem_filter.mp kept
  exact ⟨least, inside, by simpa using filled, by rw [same, commonMargin, found, Option.getD_some]⟩

end Common

/-! ### Spaces and tabulators -/

/-- The number of blanks in front of the line. -/
def indentLength (line : List Char) : Nat :=
  (line.takeWhile Text.isBlank).length

/-- The line has no other blanks in front than spaces and tabulators. -/
def HasPlainIndent (line : List Char) : Prop :=
  ∀ c ∈ line.takeWhile Text.isBlank, c = ' ' ∨ c = '\t'

section Plain

variable {c : Char} {line rest : List Char}

theorem byteLength_eq_length {text : List Char} (plain : ∀ c ∈ text, c = ' ' ∨ c = '\t') :
    byteLength text = text.length := by
  induction text with
  | nil => rfl
  | cons c text ih =>
      obtain ⟨here, later⟩ := List.forall_mem_cons.mp plain
      have size : c.utf8Size = 1 := by obtain rfl | rfl := here <;> rfl
      rw [List.length_cons, ← ih later, byteLength, List.foldr_cons, size, ← byteLength,
        Nat.add_comm]

theorem HasPlainIndent.indentBytes_eq (plain : HasPlainIndent line) :
    indentBytes line = indentLength line :=
  byteLength_eq_length plain

/-- Among lines with spaces and tabulators in front, one is indented by the common margin. -/
theorem exists_indentLength_eq_commonMargin {lines : List (List Char)}
    (plain : ∀ line ∈ lines, HasPlainIndent line) (member : line ∈ lines) (ne : line ≠ []) :
    ∃ least ∈ lines, least ≠ [] ∧ indentLength least = commonMargin lines := by
  obtain ⟨least, inside, filled, same⟩ := exists_indentBytes_eq_commonMargin member ne
  exact ⟨least, inside, filled, by rw [← (plain least inside).indentBytes_eq, same]⟩

theorem HasPlainIndent.dropBytes? {count : Nat} (plain : HasPlainIndent line)
    (within : count ≤ indentLength line) : dropBytes? count line = some (line.drop count) := by
  induction count generalizing line with
  | zero => cases line <;> simp [Source.dropBytes?]
  | succ count ih =>
    cases line with
    | nil => simp [indentLength] at within
    | cons c line =>
        cases blank : Text.isBlank c with
        | false => simp [indentLength, blank] at within
        | true =>
            rw [HasPlainIndent, List.takeWhile_cons_of_pos blank] at plain
            obtain ⟨here, later⟩ := List.forall_mem_cons.mp plain
            have size : c.utf8Size = 1 := by obtain rfl | rfl := here <;> rfl
            have less : count ≤ indentLength line := by
              simpa [indentLength, blank] using within
            simp [Source.dropBytes?, size, ih later less]

end Plain

/-! ### The lines at the new margin -/

/-- The characters of a line at a new margin. -/
def placedChars (depth margin : Nat) (line : List Char) : List Char :=
  if line.isEmpty then []
  else List.replicate (4 * depth) ' ' ++ withoutMargin margin line

theorem toList_indentation (depth : Nat) :
    (indentation depth).toList = List.replicate (4 * depth) ' ' := by
  have unit : indentUnit.toList = List.replicate 4 ' ' := rfl
  rw [indentation, Text.toList_repeated, unit, List.flatten_replicate_replicate, Nat.mul_comm]

theorem toList_placedLine (depth margin : Nat) (line : List Char) :
    (placedLine depth margin line).toList = placedChars depth margin line ++ ['\n'] := by
  rw [placedLine, placedChars]
  split
  · rfl
  · simp [toList_indentation]

theorem toList_reindent (depth : Nat) (text : String) :
    (reindent depth text).toList = ((blockLines text.toList).map
      (placedChars depth (commonMargin (blockLines text.toList)))).flatMap (· ++ ['\n']) := by
  simp only [reindent, Text.toList_concat, List.flatMap_map, toList_placedLine]

/-- What becomes of a line at a depth: an empty line stays empty, and any other stands behind the
new indentation, without some of the blanks that were in front. -/
inductive IsPlaced (depth : Nat) : List Char → List Char → Prop
  | empty : IsPlaced depth [] []
  | code {line rest : List Char} (ne : line ≠ []) (loses : LosesBlanks line rest) :
      IsPlaced depth line (List.replicate (4 * depth) ' ' ++ rest)

theorem isPlaced_placedChars {depth : Nat} {lines : List (List Char)} {line : List Char}
    (member : line ∈ lines) :
    IsPlaced depth line (placedChars depth (commonMargin lines) line) := by
  rw [placedChars]
  split
  · rename_i empty
    obtain rfl := List.isEmpty_iff.mp empty
    exact .empty
  · rename_i filled
    have ne : line ≠ [] := by simpa using filled
    exact .code ne (withoutMargin_losesBlanks (commonMargin_le member ne))

theorem IsPlaced.feed_not_mem {depth : Nat} {line output : List Char}
    (placed : IsPlaced depth line output) (whole : '\n' ∉ line) : '\n' ∉ output := by
  cases placed with
  | empty => exact whole
  | code ne loses =>
      obtain ⟨blanks, rfl, -⟩ := loses
      rw [List.mem_append, List.mem_replicate]
      rintro (⟨-, space⟩ | kept)
      · exact absurd space (by decide)
      · exact whole (List.mem_append_right blanks kept)

/-- Lines with spaces and tabulators in front all lose the common margin. -/
theorem placedChars_of_plain {depth : Nat} {lines : List (List Char)} {line : List Char}
    (plain : HasPlainIndent line) (member : line ∈ lines) (ne : line ≠ []) :
    placedChars depth (commonMargin lines) line =
      List.replicate (4 * depth) ' ' ++ line.drop (commonMargin lines) := by
  have within : commonMargin lines ≤ indentLength line :=
    plain.indentBytes_eq ▸ commonMargin_le member ne
  rw [placedChars, if_neg (by simpa using ne), withoutMargin, plain.dropBytes? within,
    Option.getD_some]

/-- Behind all its blanks, a line that is not empty and does not end in one has a character. -/
theorem exists_drop_indentLength {line : List Char} (ne : line ≠ [])
    (visible : ∀ c ∈ line.getLast?, Text.isBlank c = false) :
    ∃ c rest, line.drop (indentLength line) = c :: rest ∧ Text.isBlank c = false := by
  have behind : line.drop (indentLength line) = line.dropWhile Text.isBlank :=
    calc line.drop (indentLength line)
        = (line.takeWhile Text.isBlank ++ line.dropWhile Text.isBlank).drop
            (indentLength line) := by rw [List.takeWhile_append_dropWhile]
      _ = line.dropWhile Text.isBlank := List.drop_left' rfl
  rw [behind]
  cases kept : line.dropWhile Text.isBlank with
  | nil =>
      have blank := List.dropWhile_eq_nil_iff.mp kept _ (List.getLast_mem ne)
      rw [visible _ (List.getLast?_eq_some_getLast ne)] at blank
      contradiction
  | cons c rest =>
      have first := List.head?_dropWhile_not Text.isBlank line
      rw [kept] at first
      exact ⟨c, rest, rfl, first⟩

/-- Every line of the text comes out as one line, in order, and loses nothing but blanks in front.
Where only spaces and tabulators are in front, every line that is not empty loses as many of them
as the least indented one has, so that this one starts at the new margin. -/
theorem reindent_keeps_code (depth : Nat) (text : String) :
    ∃ lines outputs : List (List Char),
      (∀ other, HasLines text.toList other ↔ other = lines) ∧
      (reindent depth text).toList = outputs.flatMap (· ++ ['\n']) ∧
      (∀ output ∈ outputs, '\n' ∉ output) ∧
      List.Forall₂ (IsPlaced depth) lines outputs ∧
      ((∀ line ∈ lines, HasPlainIndent line) → (∃ line ∈ lines, line ≠ []) →
        ∃ margin,
          IsLeast {length | ∃ line ∈ lines, line ≠ [] ∧ indentLength line = length} margin ∧
          List.Forall₂ (fun line output => line ≠ [] →
            output = List.replicate (4 * depth) ' ' ++ line.drop margin) lines outputs ∧
          ∃ c rest, List.replicate (4 * depth) ' ' ++ c :: rest ∈ outputs ∧
            Text.isBlank c = false) := by
  have has : HasLines text.toList (blockLines text.toList) := hasLines_iff.mpr rfl
  refine ⟨blockLines text.toList, _, fun other => hasLines_iff, toList_reindent depth text, ?_, ?_,
    fun plain ⟨line, member, ne⟩ => ?_⟩
  · rw [List.forall_mem_map]
    exact fun line member => (isPlaced_placedChars member).feed_not_mem (has.shape member).1
  · exact List.forall₂_map_right_iff.mpr (List.forall₂_same.mpr fun line => isPlaced_placedChars)
  · obtain ⟨least, inside, filled, same⟩ := exists_indentLength_eq_commonMargin plain member ne
    refine ⟨commonMargin (blockLines text.toList), ⟨⟨least, inside, filled, same⟩, ?_⟩, ?_, ?_⟩
    · rintro length ⟨other, other_member, other_ne, rfl⟩
      rw [← (plain other other_member).indentBytes_eq]
      exact commonMargin_le other_member other_ne
    · exact List.forall₂_map_right_iff.mpr (List.forall₂_same.mpr fun other other_member =>
        placedChars_of_plain (plain other other_member) other_member)
    · obtain ⟨c, rest, behind, visible⟩ := exists_drop_indentLength filled (has.shape inside).2
      refine ⟨c, rest, ?_, visible⟩
      rw [← behind, same, ← placedChars_of_plain (plain least inside) inside filled]
      exact List.mem_map_of_mem inside

end Source
end ValueMethods
