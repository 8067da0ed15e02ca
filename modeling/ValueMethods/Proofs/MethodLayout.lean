import ValueMethods.Proofs.Policy
import ValueMethods.Proofs.Reindenting
import ValueMethods.Source.Unit

/-!
# Generated methods at any depth

A code tree is laid out line by line, each line at the margin and as much further in as it is
nested.  Source text is moved as a whole, by the margin that its lines have in common.  For a
method whose names hold no line feed both come to the same text: every line of it starts and ends
with a character that is not blank, none starts left of the margin, and the first one starts on it.
-/

namespace ValueMethods

namespace Text

/-- The text holds no line feed. -/
def IsOneLine (text : String) : Prop :=
  '\n' ∉ text.toList

instance (text : String) : Decidable (IsOneLine text) :=
  inferInstanceAs (Decidable (_ ∉ _))

@[simp]
theorem isOneLine_append (front back : String) :
    IsOneLine (front ++ back) ↔ IsOneLine front ∧ IsOneLine back := by
  simp [IsOneLine]

theorem isOneLine_concat {pieces : List String} (each : ∀ piece ∈ pieces, IsOneLine piece) :
    IsOneLine (concat pieces) := by
  induction pieces with
  | nil => decide
  | cons piece rest ih =>
      obtain ⟨here, later⟩ := List.forall_mem_cons.mp each
      exact (isOneLine_append _ _).mpr ⟨here, ih later⟩

theorem isOneLine_joinWith {separator : String} {pieces : List String}
    (between : IsOneLine separator) (each : ∀ piece ∈ pieces, IsOneLine piece) :
    IsOneLine (joinWith separator pieces) := by
  induction pieces with
  | nil => exact List.not_mem_nil
  | cons piece rest ih =>
      obtain ⟨here, later⟩ := List.forall_mem_cons.mp each
      cases rest with
      | nil => exact here
      | cons next rest =>
          rw [joinWith_cons_cons, isOneLine_append, isOneLine_append]
          exact ⟨⟨here, between⟩, ih later⟩

/-- Line feeds are escaped in a string literal. -/
theorem isOneLine_stringLiteral (text : String) : IsOneLine (stringLiteral text) := by
  have escaped (c : Char) : '\n' ∉ literalChar c := by
    unfold literalChar
    split_ifs with quote backslash feed
    · decide
    · decide
    · decide
    · simpa [eq_comm] using feed
  simp only [stringLiteral, isOneLine_append]
  refine ⟨⟨by decide, ?_⟩, by decide⟩
  simp [IsOneLine, escaped]

/-- The text starts with a character that is not blank. -/
def StartsVisible (text : String) : Prop :=
  ∃ c rest, text.toList = c :: rest ∧ isBlank c = false

/-- The text ends with a character that is not blank. -/
def EndsVisible (text : String) : Prop :=
  ∃ front c, text.toList = front ++ [c] ∧ isBlank c = false

theorem StartsVisible.append {front : String} (starts : StartsVisible front) (back : String) :
    StartsVisible (front ++ back) := by
  obtain ⟨c, rest, shape, visible⟩ := starts
  exact ⟨c, rest ++ back.toList, by rw [String.toList_append, shape, List.cons_append], visible⟩

theorem EndsVisible.append {back : String} (ends : EndsVisible back) (front : String) :
    EndsVisible (front ++ back) := by
  obtain ⟨rest, c, shape, visible⟩ := ends
  exact ⟨front.toList ++ rest, c, by rw [String.toList_append, shape, List.append_assoc], visible⟩

end Text

open Text Source

/-! ### Blocks of code lines -/

namespace CodeLine

/-- The line is one line and has no blanks at its ends, so it is not empty either. -/
structure IsSolid (line : CodeLine) : Prop where
  whole : IsOneLine line.text
  first : StartsVisible line.text
  last : EndsVisible line.text

/-- The characters of the line at a margin, without the line feed. -/
def row (margin : Nat) (line : CodeLine) : List Char :=
  List.replicate (4 * (margin + line.depth)) ' ' ++ line.text.toList

theorem toList_layout (margin : Nat) (line : CodeLine) :
    (line.layout margin).toList = line.row margin ++ ['\n'] := by
  simp [layout, row, toList_indentation]

theorem toList_concat_layout (margin : Nat) (lines : List CodeLine) :
    (concat (lines.map (layout margin))).toList =
      (lines.map (row margin)).flatMap (· ++ ['\n']) := by
  simp only [toList_concat, List.flatMap_map, toList_layout]

/-- A deeper margin stands in front of the line as it is without a margin. -/
theorem row_eq (margin : Nat) (line : CodeLine) :
    line.row margin = List.replicate (4 * margin) ' ' ++ line.row 0 := by
  rw [row, row, Nat.zero_add, Nat.mul_add, List.replicate_add, List.append_assoc]

namespace IsSolid

variable {line : CodeLine} (solid : line.IsSolid) (margin : Nat)
include solid

theorem row_ne_nil : line.row margin ≠ [] := by
  obtain ⟨c, rest, text, -⟩ := solid.first
  simp [row, text]

theorem feed_not_mem_row : '\n' ∉ line.row margin := by
  rw [row, List.mem_append, List.mem_replicate, not_or]
  exact ⟨fun space => absurd space.2 (by decide), solid.whole⟩

theorem last_row : ∀ c ∈ (line.row margin).getLast?, isBlank c = false := by
  obtain ⟨front, c, text, visible⟩ := solid.last
  rw [row, text, ← List.append_assoc, List.getLast?_concat]
  rintro _ ⟨⟩
  exact visible

theorem takeWhile_row :
    (line.row margin).takeWhile isBlank = List.replicate (4 * (margin + line.depth)) ' ' := by
  obtain ⟨c, rest, text, visible⟩ := solid.first
  have spaces : ∀ other ∈ List.replicate (4 * (margin + line.depth)) ' ', isBlank other = true := by
    intro other member
    rw [(List.mem_replicate.mp member).2]
    decide
  rw [row, text, List.takeWhile_append_of_pos spaces,
    List.takeWhile_cons_of_neg (by simp [visible]), List.append_nil]

theorem hasPlainIndent_row : HasPlainIndent (line.row margin) := by
  rw [HasPlainIndent, solid.takeWhile_row]
  exact fun c member => .inl (List.mem_replicate.mp member).2

theorem indentLength_row : indentLength (line.row margin) = 4 * (margin + line.depth) := by
  rw [indentLength, solid.takeWhile_row, List.length_replicate]

end IsSolid

/-- Lines that each end in a line feed are the lines with line feeds in between, and one more. -/
theorem flatMap_feed {rows : List (List Char)} (ne : rows ≠ []) :
    rows.flatMap (· ++ ['\n']) = ['\n'].intercalate rows ++ ['\n'] := by
  induction rows with
  | nil => exact absurd rfl ne
  | cons row rest ih => cases rest with
    | nil => simp
    | cons next rest =>
        rw [List.flatMap_cons, ih (by simp), List.intercalate_cons_cons]
        simp

section Block

variable {lines : List CodeLine} (solid : ∀ line ∈ lines, line.IsSolid)
include solid

theorem intercalate_ends (ne : lines ≠ []) (margin : Nat) :
    let core := ['\n'].intercalate (lines.map (row margin))
    core ≠ [] ∧ (∀ c ∈ core.head?, c ≠ '\n') ∧ ∀ c ∈ core.getLast?, c ≠ '\n' := by
  have whole {line : CodeLine} (member : line ∈ lines) {c : Char} (inside : c ∈ line.row margin) :
      c ≠ '\n' := by
    rintro rfl
    exact (solid line member).feed_not_mem_row margin inside
  induction lines with
  | nil => exact absurd rfl ne
  | cons line rest ih =>
      have filled := (solid line List.mem_cons_self).row_ne_nil margin
      have first : ∀ c ∈ (line.row margin).head?, c ≠ '\n' := fun c head =>
        whole List.mem_cons_self (List.mem_of_mem_head? head)
      cases rest with
      | nil =>
          refine ⟨by simpa using filled, by simpa using first, fun c last => ?_⟩
          simp only [List.map_cons, List.map_nil, List.intercalate_singleton] at last
          exact whole List.mem_cons_self (List.mem_of_mem_getLast? last)
      | cons next rest =>
          obtain ⟨behind, -, last⟩ := ih (fun other member => solid other
            (List.mem_cons_of_mem line member)) (by simp) fun member _ inside =>
              whole (List.mem_cons_of_mem line member) inside
          simp only [List.map_cons, List.intercalate_cons_cons, List.append_assoc] at behind last ⊢
          refine ⟨by simp [filled], ?_, ?_⟩
          · rwa [List.head?_append_of_ne_nil _ filled]
          · rwa [List.getLast?_append_of_ne_nil _ (by simp),
              List.getLast?_append_of_ne_nil _ behind]

/-- The block that is read from laid out lines consists of these lines. -/
theorem blockLines_layout (margin : Nat) :
    blockLines (concat (lines.map (layout margin))).toList = lines.map (row margin) := by
  rw [toList_concat_layout]
  by_cases ne : lines = []
  · subst ne
    rfl
  · obtain ⟨filled, first, last⟩ := intercalate_ends solid ne margin
    refine (hasLines_iff.mp ⟨['\n'].intercalate (lines.map (row margin)), lines.map (row margin),
      ⟨⟨[], ['\n'], ?_, by simp, by simp⟩, first, last⟩, ⟨rfl, ?_, fun empty => ?_⟩, ?_⟩).symm
    · rw [flatMap_feed (by simpa using ne), List.nil_append]
    · rw [List.forall_mem_map]
      exact fun line member => (solid line member).feed_not_mem_row margin
    · exact absurd empty filled
    · rw [List.forall₂_same, List.forall_mem_map]
      exact fun line member => ⟨⟨[], by simp, by simp⟩, (solid line member).last_row margin⟩

/-- The margin of laid out lines is the one that they were laid out at, if one of them stands on
it. -/
theorem commonMargin_layout (outer : ∃ line ∈ lines, line.depth = 0) (margin : Nat) :
    commonMargin (lines.map (row margin)) = 4 * margin := by
  have measured {line : CodeLine} (member : line ∈ lines) :
      indentBytes (line.row margin) = 4 * (margin + line.depth) := by
    rw [((solid line member).hasPlainIndent_row margin).indentBytes_eq,
      (solid line member).indentLength_row]
  obtain ⟨line, member, onMargin⟩ := outer
  have filled := (solid line member).row_ne_nil margin
  apply Nat.le_antisymm
  · have atMost := commonMargin_le (List.mem_map_of_mem member) filled
    rwa [measured member, onMargin] at atMost
  · obtain ⟨least, inside, -, same⟩ :=
      exists_indentBytes_eq_commonMargin (List.mem_map_of_mem member) filled
    obtain ⟨other, known, rfl⟩ := List.mem_map.mp inside
    rw [← same, measured known]
    omega

/-- Moving laid out lines to another margin gives the lines laid out there. -/
theorem reindent_layout (outer : ∃ line ∈ lines, line.depth = 0) (first second : Nat) :
    reindent second (concat (lines.map (layout first))) = concat (lines.map (layout second)) := by
  apply String.toList_inj.mp
  rw [toList_reindent, blockLines_layout solid, commonMargin_layout solid outer,
    toList_concat_layout, List.map_map]
  congr 1
  refine List.map_congr_left fun line member => ?_
  have solidLine := solid line member
  have moved : placedChars second (commonMargin (lines.map (row first))) (line.row first) = _ :=
    placedChars_of_plain (solidLine.hasPlainIndent_row first) (List.mem_map_of_mem member)
      (solidLine.row_ne_nil first)
  rw [commonMargin_layout solid outer] at moved
  rw [Function.comp_apply, moved, row_eq first, List.drop_left' List.length_replicate,
    ← row_eq second]

end Block

end CodeLine

/-! ### Names in code trees -/

/-- The names that the listing writes as they are.  Labels are string literals. -/
def Listing.names (content : Listing) : List String :=
  content.helper.name :: content.entries.map LabelledField.field

mutual

/-- The names that the text of an expression contains. -/
def Expr.names : Expr → List String
  | .this => []
  | .null => []
  | .bool _ => []
  | .local name => [name]
  | .ownField name => [name]
  | .fieldOf target name => name :: target.names
  | .ownCall method arguments => method :: Expr.namesOfAll arguments
  | .callOn target method arguments => method :: (target.names ++ Expr.namesOfAll arguments)
  | .staticCall owner method arguments => owner.name :: method :: Expr.namesOfAll arguments
  | .cast type operand => type :: operand.names
  | .binary _ left right => left.names ++ right.names
  | .listing content => content.names

/-- The names that the texts of the expressions of a list contain. -/
def Expr.namesOfAll : List Expr → List String
  | [] => []
  | first :: rest => first.names ++ Expr.namesOfAll rest

end

mutual

/-- The names that the text of a statement contains. -/
def Stmt.names : Stmt → List String
  | .branch condition body => condition.names ++ Stmt.namesOfAll body
  | .declare type name initial => type :: name :: initial.names
  | .result value => value.names

/-- The names that the texts of the statements of a list contain. -/
def Stmt.namesOfAll : List Stmt → List String
  | [] => []
  | first :: rest => first.names ++ Stmt.namesOfAll rest

end

/-- The names that the text of a method contains, less those of its annotations. -/
def Method.names (method : Method) : List String :=
  method.returnType ::
    (method.parameters.flatMap (fun parameter => [parameter.type, parameter.name]) ++
      Stmt.namesOfAll method.body)

/-! ### Lines of code trees -/

theorem Listing.isOneLine_text {content : Listing}
    (names : ∀ name ∈ content.names, IsOneLine name) : IsOneLine content.text := by
  obtain ⟨helper, fields⟩ := List.forall_mem_cons.mp names
  have entries : IsOneLine (concat (content.entries.map entryText)) := by
    refine isOneLine_concat (List.forall_mem_map.mpr fun entry member => ?_)
    have field := fields entry.field (List.mem_map_of_mem member)
    simp only [entryText, isOneLine_append, isOneLine_stringLiteral, field, and_true]
    decide
  have omission : IsOneLine (if content.omitNulls then ".omitNullValues()" else "") := by
    split <;> decide
  simp only [Listing.text, isOneLine_append, helper, entries, omission, and_true, true_and]
  decide

mutual

/-- An expression is written on one line if all its names are. -/
theorem Expr.isOneLine_text {expression : Expr}
    (names : ∀ name ∈ expression.names, IsOneLine name) (nested : Bool) :
    IsOneLine (expression.text nested) := by
  cases expression with
  | this => decide +revert
  | null => decide +revert
  | bool value => decide +revert
  | «local» name => exact names name List.mem_cons_self
  | ownField name => exact names name List.mem_cons_self
  | fieldOf target name =>
      obtain ⟨field, inner⟩ := List.forall_mem_cons.mp names
      simp only [Expr.text, isOneLine_append, Expr.isOneLine_text inner, field, and_true, true_and]
      decide
  | ownCall method arguments =>
      obtain ⟨called, inner⟩ := List.forall_mem_cons.mp names
      simp only [Expr.text, isOneLine_append, Expr.isOneLine_argumentText inner, called, and_true,
        true_and]
      decide
  | callOn target method arguments =>
      obtain ⟨called, inner⟩ := List.forall_mem_cons.mp names
      obtain ⟨front, back⟩ := List.forall_mem_append.mp inner
      simp only [Expr.text, isOneLine_append, Expr.isOneLine_text front,
        Expr.isOneLine_argumentText back, called, and_true, true_and]
      decide
  | staticCall owner method arguments =>
      obtain ⟨type, further⟩ := List.forall_mem_cons.mp names
      obtain ⟨called, inner⟩ := List.forall_mem_cons.mp further
      simp only [Expr.text, isOneLine_append, Expr.isOneLine_argumentText inner, type, called,
        and_true, true_and]
      decide
  | cast type operand =>
      obtain ⟨here, inner⟩ := List.forall_mem_cons.mp names
      simp only [Expr.text, isOneLine_append, Expr.isOneLine_text inner, here, and_true]
      decide
  | binary operator left right =>
      obtain ⟨front, back⟩ := List.forall_mem_append.mp names
      have symbol : IsOneLine operator.symbol := by cases operator <;> decide
      have inner : IsOneLine
          (left.text true ++ " " ++ operator.symbol ++ " " ++ right.text true) := by
        simp only [isOneLine_append, Expr.isOneLine_text front, Expr.isOneLine_text back, symbol,
          and_true, true_and]
        decide
      cases nested with
      | false => exact inner
      | true =>
          have opened : IsOneLine ("(" ++ (left.text true ++ " " ++ operator.symbol ++ " " ++
              right.text true)) := (isOneLine_append _ _).mpr ⟨by decide, inner⟩
          exact (isOneLine_append _ _).mpr ⟨opened, by decide⟩
  | listing content => exact Listing.isOneLine_text names

theorem Expr.isOneLine_argumentText {arguments : List Expr}
    (names : ∀ name ∈ Expr.namesOfAll arguments, IsOneLine name) :
    IsOneLine (Expr.argumentText arguments) := by
  match arguments with
  | [] => decide
  | [last] => exact Expr.isOneLine_text (by simpa [namesOfAll] using names) false
  | first :: next :: rest =>
      obtain ⟨here, later⟩ := List.forall_mem_append.mp names
      simp only [Expr.argumentText, isOneLine_append, Expr.isOneLine_text here,
        Expr.isOneLine_argumentText later, and_true, true_and]
      decide

end

section Lines

variable {depth : Nat}

/-- A line that is framed by visible characters is solid. -/
theorem CodeLine.isSolid_framed {opening inner closing : String}
    (whole : IsOneLine (opening ++ inner ++ closing)) (first : StartsVisible opening)
    (last : EndsVisible closing) :
    CodeLine.IsSolid ⟨depth, opening ++ inner ++ closing⟩ :=
  ⟨whole, (first.append inner).append closing, last.append _⟩

theorem CodeLine.isSolid_brace : CodeLine.IsSolid ⟨depth, "\x7d"⟩ :=
  have whole : IsOneLine "\x7d" := by decide
  have first : StartsVisible "\x7d" := ⟨_, _, rfl, by decide⟩
  have last : EndsVisible "\x7d" := ⟨[], _, rfl, by decide⟩
  ⟨whole, first, last⟩

mutual

/-- The lines of a statement are solid if all its names are on one line. -/
theorem Stmt.isSolid_lines {statement : Stmt} (names : ∀ name ∈ statement.names, IsOneLine name)
    (depth : Nat) : ∀ line ∈ statement.lines depth, line.IsSolid := by
  cases statement with
  | branch condition body =>
      obtain ⟨tested, inner⟩ := List.forall_mem_append.mp names
      have opening : CodeLine.IsSolid
          ⟨depth, "if (" ++ condition.text false ++ ") \x7b"⟩ := by
        refine CodeLine.isSolid_framed ?_ ⟨_, _, rfl, by decide⟩ ⟨[')', ' '], _, rfl, by decide⟩
        simp only [isOneLine_append, Expr.isOneLine_text tested, and_true]
        decide
      refine List.forall_mem_cons.mpr ⟨opening, List.forall_mem_append.mpr ⟨?_, ?_⟩⟩
      · exact Stmt.isSolid_linesOfAll inner (depth + 1)
      · exact List.forall_mem_singleton.mpr CodeLine.isSolid_brace
  | declare type name initial =>
      obtain ⟨typed, further⟩ := List.forall_mem_cons.mp names
      obtain ⟨named, inner⟩ := List.forall_mem_cons.mp further
      have first : StartsVisible "final " := ⟨_, _, rfl, by decide⟩
      have last : EndsVisible ";" := ⟨[], _, rfl, by decide⟩
      refine List.forall_mem_singleton.mpr ⟨?_, ?_, last.append _⟩
      · simp only [isOneLine_append, Expr.isOneLine_text inner, typed, named, and_true]
        decide
      · exact (((((first.append _).append _).append _).append _).append _).append _
  | result value =>
      refine List.forall_mem_singleton.mpr
        (CodeLine.isSolid_framed ?_ ⟨_, _, rfl, by decide⟩ ⟨[], _, rfl, by decide⟩)
      simp only [isOneLine_append, Expr.isOneLine_text names, and_true]
      decide

theorem Stmt.isSolid_linesOfAll {statements : List Stmt}
    (names : ∀ name ∈ Stmt.namesOfAll statements, IsOneLine name) (depth : Nat) :
    ∀ line ∈ Stmt.linesOfAll depth statements, line.IsSolid := by
  match statements with
  | [] => simp [Stmt.linesOfAll]
  | first :: rest =>
      obtain ⟨here, later⟩ := List.forall_mem_append.mp names
      exact List.forall_mem_append.mpr
        ⟨Stmt.isSolid_lines here depth, Stmt.isSolid_linesOfAll later depth⟩

end

end Lines

namespace Method

theorem isOneLine_headText {method : Method} (names : ∀ name ∈ method.names, IsOneLine name) :
    IsOneLine method.headText := by
  obtain ⟨returned, further⟩ := List.forall_mem_cons.mp names
  have kind : IsOneLine method.name := by
    rw [Method.name]
    cases method.kind <;> decide
  have parameters : IsOneLine (joinWith ", " (method.parameters.map fun parameter =>
      parameter.type ++ " " ++ parameter.name)) := by
    refine isOneLine_joinWith (by decide) (List.forall_mem_map.mpr fun parameter member => ?_)
    have within (name : String) (either : name ∈ [parameter.type, parameter.name]) :
        IsOneLine name :=
      further name (List.mem_append_left _ (List.mem_flatMap.mpr ⟨parameter, member, either⟩))
    simp only [isOneLine_append, within parameter.type (by simp),
      within parameter.name (by simp), and_true, true_and]
    decide
  simp only [headText, isOneLine_append, returned, kind, parameters, and_true]
  decide

/-- The lines of a method are solid if its names are on one line and no annotation ends in a
blank. -/
theorem isSolid_lines {method : Method} (names : ∀ name ∈ method.names, IsOneLine name)
    (annotations : ∀ annotation ∈ method.annotations,
      IsOneLine annotation ∧ EndsVisible ("@" ++ annotation)) :
    ∀ line ∈ method.lines, line.IsSolid := by
  have first : StartsVisible "public " := ⟨_, _, rfl, by decide⟩
  have last : EndsVisible ") \x7b" := ⟨[')', ' '], _, rfl, by decide⟩
  have head : CodeLine.IsSolid ⟨0, method.headText⟩ :=
    ⟨isOneLine_headText names,
      (((((first.append _).append _).append _).append _).append _).append _, last.append _⟩
  obtain ⟨-, further⟩ := List.forall_mem_cons.mp names
  have body := (List.forall_mem_append.mp further).2
  refine List.forall_mem_append.mpr ⟨List.forall_mem_map.mpr fun annotation member => ?_,
    List.forall_mem_cons.mpr ⟨head, List.forall_mem_append.mpr ⟨?_, ?_⟩⟩⟩
  · obtain ⟨whole, ends⟩ := annotations annotation member
    have marked : StartsVisible "@" := ⟨_, _, rfl, by decide⟩
    exact ⟨(isOneLine_append _ _).mpr ⟨by decide, whole⟩, marked.append _, ends⟩
  · exact Stmt.isSolid_linesOfAll body 1
  · exact List.forall_mem_singleton.mpr CodeLine.isSolid_brace

/-- The head of a method stands on the margin. -/
theorem exists_outer_line (method : Method) : ∃ line ∈ method.lines, line.depth = 0 :=
  ⟨⟨0, method.headText⟩, List.mem_append_right _ List.mem_cons_self, rfl⟩

end Method

/-! ### Generated methods -/

namespace Synthesis

theorem namesOfAll_map_ownField (names : List String) :
    Expr.namesOfAll (names.map .ownField) = names := by
  induction names with
  | nil => rfl
  | cons name rest ih => rw [List.map_cons, Expr.namesOfAll, ih]; rfl

section Names

variable {helpers : Helpers} {className : String} {names : List String}
  (fields : ∀ name ∈ names, IsOneLine name)
include fields

theorem isOneLine_fieldComparisons {objects : TypeName} {comparison : Expr}
    (owner : IsOneLine objects.name) (found : fieldComparisons? objects names = some comparison) :
    ∀ name ∈ comparison.names, IsOneLine name := by
  have one {name : String} (field : IsOneLine name) :
      ∀ other ∈ (fieldComparison objects name).names, IsOneLine other := by
    have compared : (fieldComparison objects name).names =
        [objects.name, "equals", name, name, castName] := rfl
    simp only [compared, List.forall_mem_cons, owner, field, true_and]
    decide
  have joined (rest : List String) (start : Expr) (begun : ∀ name ∈ start.names, IsOneLine name)
      (further : ∀ name ∈ rest, IsOneLine name) :
      ∀ name ∈ (rest.foldl (fun joined name =>
        .binary .both joined (fieldComparison objects name)) start).names, IsOneLine name := by
    induction rest generalizing start with
    | nil => exact begun
    | cons name rest ih =>
        obtain ⟨here, later⟩ := List.forall_mem_cons.mp further
        exact ih _ (List.forall_mem_append.mpr ⟨begun, one here⟩) later
  cases names with
  | nil => simp [fieldComparisons?] at found
  | cons first rest =>
      obtain rfl := Option.some.inj found
      obtain ⟨here, later⟩ := List.forall_mem_cons.mp fields
      exact joined rest _ (one here) later

/-- All names in a generated method are on one line if those that it is generated from are. -/
theorem isOneLine_names {kind : ValueMethod} {method : Method} (named : IsOneLine className)
    (toStringName : IsOneLine helpers.toStringType.name)
    (objectsName : IsOneLine helpers.objectsType.name)
    (built : method? helpers className names kind = some method) :
    ∀ name ∈ method.names, IsOneLine name := by
  cases kind with
  | toString =>
      obtain rfl := Option.some.inj built
      have written : (toStringMethod helpers className names).names =
          "String" :: helpers.toStringType.name :: names := by
        simp [toStringMethod, Method.names, Stmt.namesOfAll, Stmt.names, Expr.names, Listing.names,
          fieldListing, Function.comp_def]
      rw [written]
      exact List.forall_mem_cons.mpr ⟨by decide, List.forall_mem_cons.mpr ⟨toStringName, fields⟩⟩
  | hashCode =>
      cases names with
      | nil => simp [method?, hashCodeMethod?] at built
      | cons first rest =>
          obtain rfl := Option.some.inj built
          simp only [Method.names, Stmt.namesOfAll, Stmt.names, Expr.names, namesOfAll_map_ownField,
            List.flatMap_nil, List.nil_append, List.append_nil, List.forall_mem_cons]
          exact ⟨by decide, objectsName, by decide, List.forall_mem_cons.mp fields⟩
  | equals =>
      obtain ⟨comparison, found, rfl⟩ := Option.map_eq_some_iff.mp built
      have compared := isOneLine_fieldComparisons fields objectsName found
      -- the guards in front of the comparison use fixed names, the cast uses that of the class
      simp only [Method.names, Stmt.namesOfAll, Stmt.names, Expr.names, Expr.namesOfAll, answerIf,
        List.flatMap_cons, List.flatMap_nil, List.cons_append, List.nil_append, List.append_nil,
        List.forall_mem_cons, named, true_and]
      exact ⟨by decide, by decide, by decide, by decide, by decide, by decide, by decide, by decide,
        by decide, by decide, compared⟩

end Names

theorem annotations_of_method? {helpers : Helpers} {className : String} {names : List String}
    {kind : ValueMethod} {method : Method}
    (built : method? helpers className names kind = some method) :
    method.annotations = [overrideMark] := by
  cases kind with
  | toString =>
      obtain rfl := Option.some.inj built
      rfl
  | hashCode =>
      cases names with
      | nil => simp [method?, hashCodeMethod?] at built
      | cons first rest =>
          obtain rfl := Option.some.inj built
          rfl
  | equals =>
      obtain ⟨comparison, -, rfl⟩ := Option.map_eq_some_iff.mp built
      rfl

end Synthesis

namespace ClassModel

/-- Where no name holds a line feed, a planned method moved as source text from one depth to another
is the method laid out at the other depth.  So a unit shows the text of such a method alike, be it
generated or declared with that text as its source, and every line of it is moved by four spaces for
each level. -/
theorem planned_text_moves (model : ClassModel) (options : Options) (id : ClassId) {method : Method}
    (planned : method ∈ (model.plan options id).methods)
    (named : ∀ decl ∈ model.class? id, IsOneLine decl.name)
    (fields : ∀ name ∈ (model.identityFields id).names, IsOneLine name)
    (helpers : IsOneLine options.helpers.toStringType.name ∧
      IsOneLine options.helpers.objectsType.name) :
    (∀ first second, reindent second (method.text first) = method.text second) ∧
      (∀ (decl : ClassDecl) signature depth,
        decl.methodSource? signature = some (method.text depth) →
          decl.declaredText signature = "\n" ++ method.text 1) ∧
      ∃ rows : List (List Char), (∀ row ∈ rows, '\n' ∉ row) ∧
        (method.text 0).toList = rows.flatMap (· ++ ['\n']) ∧
        ∀ depth, (method.text depth).toList =
          (rows.map (List.replicate (4 * depth) ' ' ++ ·)).flatMap (· ++ ['\n']) := by
  obtain ⟨decl, found, -, -, built⟩ := of_generates_plan (Plan.mem_methods_iff.mp planned)
  have names := Synthesis.isOneLine_names fields (named decl found) helpers.1 helpers.2 built
  have solid : ∀ line ∈ method.lines, line.IsSolid := by
    refine Method.isSolid_lines names ?_
    rw [Synthesis.annotations_of_method? built, List.forall_mem_singleton]
    exact ⟨by decide, "@Overrid".toList, 'e', rfl, by decide⟩
  have moves (first second : Nat) : reindent second (method.text first) = method.text second :=
    CodeLine.reindent_layout solid method.exists_outer_line first second
  refine ⟨moves, fun decl signature depth known => ?_, method.lines.map (CodeLine.row 0), ?_, ?_,
    fun depth => ?_⟩
  · simp only [ClassDecl.declaredText, known, moves]
  · exact List.forall_mem_map.mpr fun line member => (solid line member).feed_not_mem_row 0
  · exact CodeLine.toList_concat_layout 0 method.lines
  · rw [List.map_map, Method.text, CodeLine.toList_concat_layout]
    congr 1
    exact List.map_congr_left fun line _ => line.row_eq depth

/-- A class with blanks in its name that inherits a field with a carriage return in its name. -/
def oddlyNamed : ClassModel :=
  ⟨[⟨"Base", some "geo", false, [⟨"id\r", "long", false⟩], none, [], []⟩,
    ⟨"\t Point ", some "geo", false, [⟨"x", "int", false⟩], some (.inModel 0), [], []⟩], []⟩

theorem planned_text_moves_on_oddlyNamed :
    ∃ method ∈ (oddlyNamed.plan .default 1).methods,
      method.text 0 = "@Override\npublic boolean equals(Object other) \x7b\n" ++
        "    if (this == other) \x7b\n        return true;\n    \x7d\n" ++
        "    if (other == null) \x7b\n        return false;\n    \x7d\n" ++
        "    if (getClass() != other.getClass()) \x7b\n        return false;\n    \x7d\n" ++
        "    final \t Point  o = ((\t Point ) other);\n" ++
        "    return Objects.equals(this.id\r, o.id\r) && Objects.equals(this.x, o.x);\n\x7d\n" ∧
      (∀ decl ∈ oddlyNamed.class? 1, IsOneLine decl.name) ∧
      (∀ name ∈ (oddlyNamed.identityFields 1).names, IsOneLine name) ∧
      (IsOneLine Options.default.helpers.toStringType.name ∧
        IsOneLine Options.default.helpers.objectsType.name) ∧
      reindent 3 (method.text 1) = method.text 3 := by
  have named : ∀ decl ∈ oddlyNamed.class? 1, IsOneLine decl.name := by decide
  have fields : ∀ name ∈ (oddlyNamed.identityFields 1).names, IsOneLine name := by decide
  have helpers : IsOneLine Options.default.helpers.toStringType.name ∧
      IsOneLine Options.default.helpers.objectsType.name := by decide
  obtain ⟨method, planned, text⟩ : ∃ method ∈ (oddlyNamed.plan .default 1).methods,
      method.text 0 = _ :=
    ⟨_, List.mem_cons_of_mem _ (List.mem_cons_of_mem _ List.mem_cons_self), rfl⟩
  refine ⟨method, planned, ?_, named, fields, helpers,
    (planned_text_moves oddlyNamed .default 1 planned named fields helpers).1 1 3⟩
  rw [text]
  decide +kernel

end ClassModel
end ValueMethods
