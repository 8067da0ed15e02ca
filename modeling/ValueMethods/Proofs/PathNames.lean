import Mathlib.Data.List.Infix
import ValueMethods.Files.Tree

/-!
# What a path lists

A path is read as the names between its slashes, where empty names and single dots are void.  A
joined path lists the names of its parts, and a parent lists the same names but the last.  Paths
with the same names differ only in void names and in whether they start at the root.  What is cut
off a path in front of another one are components of it, so a path that was joined gives its parts
back.
-/

namespace ValueMethods
namespace Text

theorem splitOn_eq_splitOn (separator : Char) (text : List Char) :
    splitOn separator text = text.splitOn separator := by
  induction text with
  | nil => rfl
  | cons c rest ih =>
      rw [splitOn, List.splitOn_cons_eq_if_modifyHead, ← ih]
      by_cases found : c = separator
      · simp [found]
      · rw [if_neg found, if_neg (by simpa using found)]
        cases split : splitOn separator rest with
        | nil => exact absurd split (splitOn_ne_nil separator rest)
        | cons piece pieces => rfl

theorem splitOn_append (separator : Char) (front back : List Char) :
    splitOn separator (front ++ separator :: back) =
      splitOn separator front ++ splitOn separator back := by
  simp only [splitOn_eq_splitOn]
  exact List.splitOn_append_cons_self ..

theorem splitOn_injective (separator : Char) : Function.Injective (splitOn separator) := by
  intro first second same
  rw [splitOn_eq_splitOn, splitOn_eq_splitOn] at same
  have joined (text : List Char) : [separator].intercalate (text.splitOn separator) = text :=
    List.intercalate_splitOn separator
  rw [← joined first, same, joined]

theorem pieces_injective (separator : Char) : Function.Injective (pieces separator) := by
  intro first second same
  apply String.toList_inj.mp
  apply splitOn_injective separator
  exact (List.map_injective_iff.mpr fun _ _ equal => String.ofList_inj.mp equal) same

theorem toList_joinWith (separator : Char) (parts : List String) :
    (joinWith (String.singleton separator) parts).toList =
      [separator].intercalate (parts.map String.toList) := by
  induction parts with
  | nil => rfl
  | cons part rest ih => cases rest with
    | nil => simp
    | cons next further =>
        rw [joinWith_cons_cons, String.toList_append, String.toList_append, ih]
        simp [List.intercalate_cons_cons]

theorem pieces_joinWith {separator : Char} {parts : List String} (nonempty : parts ≠ [])
    (clean : ∀ part ∈ parts, separator ∉ part.toList) :
    pieces separator (joinWith (String.singleton separator) parts) = parts := by
  rw [pieces, toList_joinWith, splitOn_eq_splitOn, List.splitOn_intercalate]
  · simp [Function.comp_def]
  · simpa using clean
  · simpa using nonempty

theorem mem_of_mem_splitOn {separator c : Char} {text piece : List Char}
    (member : piece ∈ splitOn separator text) (inside : c ∈ piece) : c ∈ text ∧ c ≠ separator := by
  induction text generalizing piece with
  | nil =>
      obtain rfl : piece = [] := by simpa [splitOn] using member
      exact absurd inside List.not_mem_nil
  | cons first rest ih =>
      have further {piece : List Char} (later : piece ∈ splitOn separator rest)
          (inside : c ∈ piece) : c ∈ first :: rest ∧ c ≠ separator :=
        (ih later inside).imp_left (List.mem_cons_of_mem first)
      rw [splitOn] at member
      split at member
      · rcases List.mem_cons.mp member with rfl | later
        · exact absurd inside List.not_mem_nil
        · exact further later inside
      · next other =>
          cases split : splitOn separator rest with
          | nil => exact absurd split (splitOn_ne_nil separator rest)
          | cons start pieces =>
              rw [split] at member further
              rcases List.mem_cons.mp member with rfl | later
              · rcases List.mem_cons.mp inside with rfl | within
                · exact ⟨List.mem_cons_self, other⟩
                · exact further List.mem_cons_self within
              · exact further (List.mem_cons_of_mem start later) inside

theorem not_mem_of_mem_splitOn {separator : Char} {text piece : List Char}
    (member : piece ∈ splitOn separator text) : separator ∉ piece := fun inside =>
  (mem_of_mem_splitOn member inside).2 rfl

end Text

namespace Path

/-- The names that a path lists, void ones left out. -/
def names (path : String) : List String :=
  (Text.pieces '/' path).filter fun name => !isVoid name.toList

theorem isVoid_iff (name : String) : isVoid name.toList = true ↔ name = "" ∨ name = "." := by
  simp only [isVoid, Bool.or_eq_true, beq_iff_eq, ← String.toList_inj]
  exact Iff.rfl

theorem names_eq_map_filter (path : String) :
    names path =
      ((Text.splitOn '/' path.toList).filter fun segment => !isVoid segment).map String.ofList := by
  rw [names, Text.pieces, List.filter_map]
  simp [Function.comp_def]

/-- The opening of a path lists no name, so that the names are those of the body. -/
theorem names_eq (path : String) :
    names path = ((bodySegments path).filter fun segment => !isVoid segment).map String.ofList := by
  rw [names_eq_map_filter, bodySegments]
  congr 1
  unfold opening
  split
  · next body start => rw [start]; rfl
  · next start => rw [start]; rfl
  · next body start => rw [start]; rfl
  · rfl

theorem components_eq (path : String) : components path = openingComponent path ++ names path := by
  rw [components, names_eq]

/-- The path starts at the root. -/
def IsRooted (path : String) : Prop :=
  path.toList.head? = some '/'

instance (path : String) : Decidable (IsRooted path) :=
  inferInstanceAs (Decidable (_ = _))

private theorem names_of_toList {path : String} (front back : List Char)
    (text : path.toList = front ++ '/' :: back) :
    names path = names (String.ofList front) ++ names (String.ofList back) := by
  simp only [names_eq_map_filter, text, Text.splitOn_append, String.toList_ofList,
    List.filter_append, List.map_append]

theorem names_empty : names "" = [] := rfl

theorem join_of_relative (base : String) {part : String} (relative : ¬IsRooted part) :
    join base part =
      if base.isEmpty || base.toList.getLast? = some '/' then base ++ part
      else base ++ "/" ++ part :=
  if_neg relative

/-- A path below another one lists its names after those of the other one. -/
theorem names_join {base part : String} (relative : ¬IsRooted part) :
    names (join base part) = names base ++ names part := by
  rw [join_of_relative base relative]
  split
  · next ends =>
      rcases Bool.or_eq_true_iff.mp ends with empty | slash
      · rw [String.isEmpty_iff.mp empty, names_empty, String.empty_append, List.nil_append]
      · obtain ⟨front, shape⟩ := List.getLast?_eq_some_iff.mp (of_decide_eq_true slash)
        rw [names_of_toList front [] shape, names_of_toList front part.toList]
        · simp [names_empty]
        · rw [String.toList_append, shape, List.append_assoc, List.singleton_append]
  · rw [names_of_toList base.toList part.toList]
    · simp
    · simp [String.toList_append]

theorem isRooted_join {base part : String} (relative : ¬IsRooted part) :
    IsRooted (join base part) ↔ IsRooted base := by
  rw [join_of_relative base relative]
  by_cases empty : base = ""
  · subst empty
    simpa [IsRooted] using relative
  · have first : base.toList ≠ [] := mt String.toList_eq_nil_iff.mp empty
    split <;> simp [IsRooted, List.head?_append_of_ne_nil _ first]

/-! ### Single names -/

/-- The text is one name, which is not void. -/
structure IsName (part : String) : Prop where
  clean : '/' ∉ part.toList
  visible : isVoid part.toList = false

instance (part : String) : Decidable (IsName part) :=
  decidable_of_iff ('/' ∉ part.toList ∧ isVoid part.toList = false)
    ⟨fun single => ⟨single.1, single.2⟩, fun single => ⟨single.clean, single.visible⟩⟩

theorem IsName.relative {part : String} (single : IsName part) : ¬IsRooted part := fun rooted =>
  single.clean (List.mem_of_head? rooted)

theorem IsName.names {part : String} (single : IsName part) : names part = [part] := by
  rw [names_eq_map_filter, Text.splitOn_of_not_mem single.clean,
    List.filter_cons_of_pos (by simpa using single.visible)]
  simp

theorem names_joinAll {base : String} {parts : List String} (single : ∀ part ∈ parts, IsName part) :
    names (joinAll base parts) = names base ++ parts := by
  induction parts generalizing base with
  | nil => exact (List.append_nil _).symm
  | cons part rest ih =>
      have first := single part List.mem_cons_self
      have later : ∀ next ∈ rest, IsName next := fun next member =>
        single next (List.mem_cons_of_mem part member)
      rw [joinAll, List.foldl_cons, ← joinAll, ih later, names_join first.relative, first.names]
      simp

theorem isRooted_joinAll {base : String} {parts : List String}
    (single : ∀ part ∈ parts, IsName part) : IsRooted (joinAll base parts) ↔ IsRooted base := by
  induction parts generalizing base with
  | nil => exact Iff.rfl
  | cons part rest ih =>
      have first := single part List.mem_cons_self
      exact (ih fun next member => single next (List.mem_cons_of_mem part member)).trans
        (isRooted_join first.relative)

theorem le_utf8ByteSize_joinAll (base : String) {parts : List String}
    (single : ∀ part ∈ parts, IsName part) :
    base.utf8ByteSize ≤ (joinAll base parts).utf8ByteSize := by
  induction parts generalizing base with
  | nil => exact Nat.le_refl _
  | cons part rest ih =>
      have first := single part List.mem_cons_self
      have onward := ih (join base part) fun next member =>
        single next (List.mem_cons_of_mem part member)
      have step : base.utf8ByteSize ≤ (join base part).utf8ByteSize := by
        rw [join_of_relative base first.relative]
        split <;> simp only [String.utf8ByteSize_append] <;> omega
      exact step.trans onward

/-! ### Parents -/

private theorem names_segmentText {segments : List (List Char)}
    (clean : ∀ segment ∈ segments, '/' ∉ segment) :
    names (segmentText segments) =
      (segments.filter fun segment => !isVoid segment).map String.ofList := by
  by_cases nothing : segments = []
  · subst nothing
    rfl
  · have split : Text.pieces '/' (segmentText segments) = segments.map String.ofList :=
      Text.pieces_joinWith (by simpa using nothing) (by simpa using clean)
    rw [names, split, List.filter_map]
    simp [Function.comp_def]

private theorem names_slash (text : String) : names ("/" ++ text) = names text := by
  rw [names_of_toList [] text.toList]
  · simp [names_empty]
  · simp

/-- A leading dot adds no name in front of a slash or of nothing. -/
private theorem names_dot {segments : List (List Char)} (first : segments.head?.getD [] = []) :
    names ("." ++ segmentText segments) = names (segmentText segments) := by
  match segments with
  | [] => rfl
  | [segment] =>
      obtain rfl : segment = [] := by simpa using first
      rfl
  | segment :: next :: rest =>
      obtain rfl : segment = [] := by simpa using first
      have text : segmentText ([] :: next :: rest) = "/" ++ segmentText (next :: rest) := by
        simp [segmentText]
      rw [text, names_slash,
        names_of_toList ['.'] (segmentText (next :: rest)).toList]
      · simp [show names (String.ofList ['.']) = [] from rfl]
      · simp

/-- The text of an opening and of the first segments of the body lists the names of these. -/
private theorem names_opening {path : String} {segments : List (List Char)}
    (first : segments <+: bodySegments path) :
    names (String.ofList (opening path.toList).1 ++ segmentText segments) =
      (segments.filter fun segment => !isVoid segment).map String.ofList := by
  have clean : ∀ segment ∈ segments, '/' ∉ segment := fun segment member =>
    Text.not_mem_of_mem_splitOn (first.subset member)
  have cut := names_segmentText clean
  have startsVoid {tail : List (List Char)} (within : segments <+: [] :: tail) :
      segments.head?.getD [] = [] := by
    rcases List.prefix_cons_iff.mp within with rfl | ⟨more, rfl, _⟩ <;> rfl
  rw [bodySegments] at first
  unfold opening at first ⊢
  split at first
  · exact (names_slash _).trans cut
  · exact (names_dot (startsVoid first)).trans cut
  · next body _ =>
      have slash : Text.splitOn '/' ('/' :: body) = [] :: Text.splitOn '/' body := rfl
      exact (names_dot (startsVoid (slash ▸ first))).trans cut
  · exact (congrArg names String.empty_append).trans cut

private theorem dropVoidEnd_within (segments : List (List Char)) :
    dropVoidEnd segments <+: segments := by
  have back : segments.reverse.dropWhile isVoid <:+ segments.reverse := List.dropWhile_suffix isVoid
  simpa [dropVoidEnd] using List.reverse_prefix.mpr back

private theorem filter_dropWhile (segments : List (List Char)) :
    ((segments.dropWhile isVoid).filter fun segment => !isVoid segment) =
      segments.filter fun segment => !isVoid segment := by
  induction segments with
  | nil => rfl
  | cons segment rest ih =>
      by_cases void : isVoid segment = true
      · rw [List.dropWhile_cons_of_pos void, ih, List.filter_cons_of_neg (by simpa using void)]
      · rw [List.dropWhile_cons_of_neg void]

private theorem filter_dropVoidEnd (segments : List (List Char)) :
    ((dropVoidEnd segments).filter fun segment => !isVoid segment) =
      segments.filter fun segment => !isVoid segment := by
  rw [dropVoidEnd, List.filter_reverse, filter_dropWhile, List.filter_reverse, List.reverse_reverse]

/-- A path lists no name if all segments of its body are void. -/
theorem names_eq_nil {path : String}
    (rest : (bodySegments path).reverse.dropWhile isVoid = []) : names path = [] := by
  have nothing := filter_dropWhile (bodySegments path).reverse
  rw [rest, List.filter_nil, List.filter_reverse, eq_comm, List.reverse_eq_nil_iff] at nothing
  rw [names_eq, nothing, List.map_nil]

/-- The last segment of the body that is not void is the last name of a path. -/
theorem names_eq_concat {path : String} {last : List Char} {front : List (List Char)}
    (rest : (bodySegments path).reverse.dropWhile isVoid = last :: front) :
    names path = (front.reverse.filter fun segment => !isVoid segment).map String.ofList ++
      [String.ofList last] := by
  have visible : isVoid last = false := by
    have first := List.head?_dropWhile_not isVoid (bodySegments path).reverse
    simpa [rest] using first
  have kept := filter_dropWhile (bodySegments path).reverse
  rw [rest, List.filter_cons_of_pos (by simpa using visible), List.filter_reverse,
    ← List.reverse_inj, List.reverse_reverse, List.reverse_cons] at kept
  rw [names_eq, ← kept, List.filter_reverse, List.map_append, List.map_singleton]

private theorem front_within {path : String} {last : List Char} {front : List (List Char)}
    (rest : (bodySegments path).reverse.dropWhile isVoid = last :: front) :
    dropVoidEnd front.reverse <+: bodySegments path := by
  have back : last :: front <:+ (bodySegments path).reverse :=
    rest ▸ List.dropWhile_suffix isVoid
  have within := List.reverse_prefix.mpr ((List.suffix_cons last front).trans back)
  rw [List.reverse_reverse] at within
  exact (dropVoidEnd_within _).trans within

/-- The file name of a path is its last name. -/
theorem fileName?_of_names {path name : String} {front : List String}
    (listed : names path = front ++ [name]) (downward : name ≠ "..") :
    fileName? path = some name.toList := by
  unfold fileName?
  split
  · next rest => simp [names_eq_nil rest] at listed
  · next last front rest =>
      rw [names_eq_concat rest] at listed
      obtain ⟨_, same⟩ := List.append_inj' listed rfl
      obtain rfl : String.ofList last = name := by simpa using same
      have other : last ≠ ['.', '.'] := fun dots => downward (by simp [dots])
      rw [if_neg other, String.toList_ofList]

/-- The parent of a path lists the same names but the last. -/
theorem names_parent {path above : String} (found : parent? path = some above) :
    names above = (names path).dropLast := by
  rw [parent?] at found
  split at found
  · next rest =>
      split at found
      · obtain rfl := Option.some.inj found
        rw [names_eq_nil rest]
        rfl
      · simp at found
  · next last front rest =>
      obtain rfl := Option.some.inj found
      rw [names_opening (front_within rest), filter_dropVoidEnd, names_eq_concat rest,
        List.dropLast_concat]

private theorem head?_segmentText {c : Char} {segment : List Char} (rest : List (List Char)) :
    (segmentText ((c :: segment) :: rest)).toList.head? = some c := by
  cases rest <;> simp [segmentText]

/-- The first segments of a path that does not start at the root do not start there either. -/
private theorem not_isRooted_segmentText {text : List Char} {segments : List (List Char)}
    (relative : text.head? ≠ some '/') (first : segments <+: Text.splitOn '/' text) :
    ¬IsRooted (segmentText segments) := by
  cases segments with
  | nil => exact fun rooted => absurd rooted (by decide)
  | cons segment rest =>
      cases text with
      | nil =>
          obtain ⟨rfl, rfl⟩ : segment = [] ∧ rest = [] := by simpa [Text.splitOn] using first
          exact fun rooted => absurd rooted (by decide)
      | cons c text =>
          have other : c ≠ '/' := by simpa using relative
          rw [Text.splitOn, if_neg other] at first
          split at first
          · next nothing => exact absurd nothing (Text.splitOn_ne_nil '/' text)
          · next piece pieces _ =>
              obtain ⟨rfl, _⟩ := List.cons_prefix_cons.mp first
              rw [IsRooted, head?_segmentText]
              simpa using other

/-- The parent of a path starts where the path starts. -/
theorem isRooted_parent {path above : String} (found : parent? path = some above) :
    IsRooted above ↔ IsRooted path := by
  rw [parent?] at found
  split at found
  · split at found
    · next dot =>
        obtain rfl := Option.some.inj found
        refine iff_of_false (by decide) fun rooted => ?_
        obtain ⟨body, start⟩ := List.head?_eq_some_iff.mp rooted
        simp [start, opening] at dot
    · simp at found
  · next last front rest =>
      obtain rfl := Option.some.inj found
      have body := front_within rest
      rw [bodySegments] at body
      rw [IsRooted, IsRooted, String.toList_append, String.toList_ofList]
      unfold opening at body ⊢
      split at body
      · next start => simp [start]
      · next start => simp [start]
      · next start => simp [start]
      · next noSlash _ _ =>
          have relative : path.toList.head? ≠ some '/' := by
            intro rooted
            obtain ⟨rest, start⟩ := List.head?_eq_some_iff.mp rooted
            exact noSlash rest start
          exact iff_of_false (not_isRooted_segmentText relative body) relative

theorem ancestor {path above : String} (member : above ∈ ancestors path) :
    names above <+: names path ∧ (IsRooted above ↔ IsRooted path) := by
  rw [ancestors] at member
  generalize path.length + 1 = limit at member
  induction limit generalizing path with
  | zero => exact absurd member List.not_mem_nil
  | succ limit ih =>
      rcases List.mem_cons.mp member with rfl | further
      · exact ⟨List.prefix_rfl, Iff.rfl⟩
      · split at further
        · next parent found =>
            obtain ⟨within, rooted⟩ := ih further
            rw [names_parent found] at within
            exact ⟨within.trans (List.dropLast_prefix _), rooted.trans (isRooted_parent found)⟩
        · exact absurd further List.not_mem_nil

/-! ### Components -/

/-- A text opens with a slash, with a dot in front of a slash or of nothing, or not at all. -/
private theorem opening_cases (text : List Char) :
    (∃ body, text = '/' :: body) ∨ text = ['.'] ∨ (∃ body, text = '.' :: '/' :: body) ∨
      (opening text).1 = [] := by
  unfold opening
  split <;> simp

private theorem opening_append {text : List Char} (nonempty : text ≠ []) (more : List Char) :
    (opening (text ++ '/' :: more)).1 = (opening text).1 := by
  obtain ⟨first, rest, rfl⟩ := List.exists_cons_of_ne_nil nonempty
  by_cases slash : first = '/'
  · subst slash
    rfl
  by_cases dot : first = '.'
  · subst dot
    cases rest with
    | nil => rfl
    | cons next rest =>
        by_cases further : next = '/'
        · subst further
          rfl
        · simp [opening, further]
  · simp [opening, slash, dot]

private theorem opening_of_clean {segment : List Char} (clean : '/' ∉ segment)
    (visible : isVoid segment = false) : (opening segment).1 = [] := by
  have named : segment ≠ [] ∧ segment ≠ ['.'] := by simpa [isVoid] using visible
  unfold opening
  split
  · exact absurd List.mem_cons_self clean
  · exact absurd rfl named.2
  · exact absurd (List.mem_cons_of_mem _ List.mem_cons_self) clean
  · rfl

theorem openingComponent_congr {path other : String}
    (same : (opening path.toList).1 = (opening other.toList).1) :
    openingComponent path = openingComponent other := by
  rw [openingComponent, openingComponent, same]

/-- A path below another one opens like that one. -/
theorem openingComponent_join {base part : String} (single : IsName part) :
    openingComponent (join base part) = openingComponent base := by
  apply openingComponent_congr
  have alone := opening_of_clean single.clean single.visible
  rw [join_of_relative base single.relative]
  split
  · next ends =>
      rcases Bool.or_eq_true_iff.mp ends with empty | slash
      · obtain rfl := String.isEmpty_iff.mp empty
        rw [String.empty_append, alone]
        rfl
      · obtain ⟨front, shape⟩ := List.getLast?_eq_some_iff.mp (of_decide_eq_true slash)
        rw [String.toList_append, shape, List.append_assoc, List.singleton_append]
        by_cases nothing : front = []
        · subst nothing
          rfl
        · rw [opening_append nothing, opening_append nothing]
  · next inside =>
      have nonempty : base.toList ≠ [] := by
        rw [Ne, String.toList_eq_nil_iff]
        rintro rfl
        exact inside rfl
      rw [String.toList_append, String.toList_append, List.append_assoc,
        show "/".toList = ['/'] from rfl, List.singleton_append, opening_append nonempty]

/-- A path below another one has its names as components after those of the other one. -/
theorem components_joinAll {base : String} {parts : List String}
    (single : ∀ part ∈ parts, IsName part) :
    components (joinAll base parts) = components base ++ parts := by
  have opened : openingComponent (joinAll base parts) = openingComponent base := by
    induction parts generalizing base with
    | nil => rfl
    | cons part rest ih =>
        have later : ∀ next ∈ rest, IsName next := fun next member =>
          single next (List.mem_cons_of_mem part member)
        exact (ih later).trans (openingComponent_join (single part List.mem_cons_self))
  rw [components_eq, components_eq, opened, names_joinAll single, List.append_assoc]

/-! ### Relative paths -/

private theorem openingComponent_segmentText {segments : List (List Char)}
    (clean : ∀ segment ∈ segments, '/' ∉ segment)
    (first : ∀ segment ∈ segments.head?, isVoid segment = false) :
    openingComponent (segmentText segments) = [] := by
  cases segments with
  | nil => rfl
  | cons segment rest =>
      have visible := first segment rfl
      have alone := opening_of_clean (clean segment List.mem_cons_self) visible
      have named : segment ≠ [] := by
        rintro rfl
        exact absurd visible (by decide)
      have text : (opening (segmentText (segment :: rest)).toList).1 = [] := by
        cases rest with
        | nil => simpa [segmentText] using alone
        | cons next rest => simpa [segmentText, opening_append named] using alone
      rw [openingComponent, text]

private theorem filter_dropSegments (count : Nat) (segments : List (List Char)) :
    ((dropSegments count segments).filter fun segment => !isVoid segment) =
      (segments.filter fun segment => !isVoid segment).drop count := by
  induction count, segments using dropSegments.induct with
  | case1 segments => rw [dropSegments, filter_dropWhile, List.drop_zero]
  | case2 count => rfl
  | case3 count segment rest void ih =>
      rw [dropSegments, if_pos void, ih, List.filter_cons_of_neg (by simpa using void)]
  | case4 count segment rest visible ih =>
      rw [dropSegments, if_neg visible, ih, List.filter_cons_of_pos (by simpa using visible),
        List.drop_succ_cons]

private theorem dropSegments_within (count : Nat) (segments : List (List Char)) :
    dropSegments count segments <:+ segments := by
  induction count, segments using dropSegments.induct with
  | case1 segments =>
      rw [dropSegments]
      exact List.dropWhile_suffix isVoid
  | case2 count => exact List.suffix_rfl
  | case3 count segment rest void ih =>
      rw [dropSegments, if_pos void]
      exact ih.trans (List.suffix_cons segment rest)
  | case4 count segment rest visible ih =>
      rw [dropSegments, if_neg visible]
      exact ih.trans (List.suffix_cons segment rest)

private theorem head?_dropSegments (count : Nat) (segments : List (List Char)) :
    ∀ segment ∈ (dropSegments count segments).head?, isVoid segment = false := by
  induction count, segments using dropSegments.induct with
  | case1 segments =>
      intro segment first
      have visible := List.head?_dropWhile_not isVoid segments
      rw [dropSegments] at first
      rw [Option.mem_def.mp first] at visible
      exact visible
  | case2 count => simp [dropSegments]
  | case3 count segment rest void ih => rwa [dropSegments, if_pos void]
  | case4 count segment rest visible ih => rwa [dropSegments, if_neg visible]

private theorem head?_of_prefix {segments longer : List (List Char)} (within : segments <+: longer)
    (first : ∀ segment ∈ longer.head?, isVoid segment = false) :
    ∀ segment ∈ segments.head?, isVoid segment = false := by
  obtain ⟨rest, rfl⟩ := within
  intro segment here
  exact first segment (by simp [List.head?_append, Option.mem_def.mp here])

/-- Without an opening, a path that is not empty begins with a segment that is not void. -/
private theorem head?_bodySegments {path : String} (closed : (opening path.toList).1 = [])
    (nonempty : path ≠ "") : ∀ segment ∈ (bodySegments path).head?, isVoid segment = false := by
  rw [bodySegments]
  unfold opening at closed ⊢
  split
  · next start => simp [start] at closed
  · next start => simp [start] at closed
  · next start => simp [start] at closed
  · next body noSlash noDot noStart =>
      cases text : path.toList with
      | nil => exact absurd (String.toList_eq_nil_iff.mp text) nonempty
      | cons c rest =>
          have other : c ≠ '/' := fun slash => noSlash rest (by rw [text, slash])
          have visible {more : List (List Char)} (dot : c ≠ '.') :
              ∀ segment ∈ ([c] :: more).head?, isVoid segment = false := by
            simp [isVoid, dot]
          cases rest with
          | nil =>
              rw [Text.splitOn_of_not_mem (by simpa using other.symm)]
              exact visible fun dot => noDot (by rw [text, dot])
          | cons next rest =>
              by_cases slash : next = '/'
              · subst slash
                rw [show c :: '/' :: rest = [c] ++ '/' :: rest from rfl, Text.splitOn_append,
                  Text.splitOn_of_not_mem (by simpa using other.symm)]
                exact visible fun dot => noStart rest (by rw [text, dot])
              · cases split : Text.splitOn '/' rest with
                | nil => exact absurd split (Text.splitOn_ne_nil '/' rest)
                | cons piece pieces => simp [Text.splitOn, other, slash, split, isVoid]

/-- The opening of a path and the first segments of its body have the opening and these segments as
components. -/
private theorem components_opening {path : String} {segments : List (List Char)}
    (within : segments <+: bodySegments path) :
    components (String.ofList (opening path.toList).1 ++ segmentText segments) =
      openingComponent path ++
        (segments.filter fun segment => !isVoid segment).map String.ofList := by
  have opened : openingComponent (String.ofList (opening path.toList).1 ++ segmentText segments) =
      openingComponent path := by
    by_cases nonempty : path = ""
    · subst nonempty
      obtain rfl | rfl : segments = [] ∨ segments = [[]] := by
        simpa [bodySegments, opening, Text.splitOn, List.prefix_cons_iff] using within
      · rfl
      · rfl
    by_cases closed : (opening path.toList).1 = []
    · have clean : ∀ segment ∈ segments, '/' ∉ segment := fun segment member =>
        Text.not_mem_of_mem_splitOn (within.subset member)
      have first := head?_of_prefix within (head?_bodySegments closed nonempty)
      rw [closed, String.ofList_nil, String.empty_append, openingComponent_segmentText clean first,
        openingComponent, closed]
    apply openingComponent_congr
    rw [bodySegments] at within
    rw [String.toList_append, String.toList_ofList]
    rcases opening_cases path.toList with ⟨body, start⟩ | start | ⟨body, start⟩ | none
    · rw [start]
      rfl
    · rw [start] at within ⊢
      obtain rfl | rfl : segments = [] ∨ segments = [[]] := by
        simpa [opening, Text.splitOn, List.prefix_cons_iff] using within
      · rfl
      · rfl
    · rw [start] at within ⊢
      obtain rfl | ⟨more, rfl, -⟩ := List.prefix_cons_iff.mp within
      · rfl
      · cases more with
        | nil => rfl
        | cons next rest => simp [opening, segmentText]
    · exact absurd none closed
  rw [components_eq, opened, names_opening within]

private theorem components_dropSegments (count : Nat) (path : String) :
    components (segmentText (dropVoidEnd (dropSegments count (bodySegments path)))) =
      (names path).drop count := by
  have within := dropVoidEnd_within (dropSegments count (bodySegments path))
  have clean : ∀ segment ∈ dropVoidEnd (dropSegments count (bodySegments path)),
      '/' ∉ segment := fun segment member =>
    Text.not_mem_of_mem_splitOn ((dropSegments_within count _).subset (within.subset member))
  have first := head?_of_prefix within (head?_dropSegments count (bodySegments path))
  rw [components_eq, openingComponent_segmentText clean first, List.nil_append,
    names_segmentText clean, filter_dropVoidEnd, filter_dropSegments, List.map_drop, ← names_eq]

private theorem concat_openingComponent (path : String) :
    Text.concat (openingComponent path) = String.ofList (opening path.toList).1 := by
  rw [openingComponent]
  split
  · next none =>
      rw [none]
      rfl
  · next start _ => simp [Text.concat]

/-- What is left of a path after another one has the components that come after those of the other
one. -/
theorem components_of_relativeTo? {base path rest : String}
    (cut : relativeTo? base path = some rest) :
    components path = components base ++ components rest := by
  have whole : components (Text.concat (openingComponent path) ++
      segmentText (dropVoidEnd (bodySegments path))) = components path := by
    rw [concat_openingComponent, components_opening (dropVoidEnd_within _), filter_dropVoidEnd,
      ← names_eq, components_eq]
  rw [relativeTo?] at cut
  split at cut
  · next starts =>
      obtain ⟨further, same⟩ := List.isPrefixOf_iff_prefix.mp starts
      have left : further = (components path).drop (components base).length := by
        rw [← same, List.drop_left]
      rw [← same, left]
      congr 1
      split at cut
      · next none closed =>
          obtain rfl := Option.some.inj cut
          rw [closed, Text.concat_nil, String.empty_append] at whole
          rw [none, List.drop_zero, whole]
      · next none _ =>
          obtain rfl := Option.some.inj cut
          rw [none, List.drop_zero, whole]
      · next count counted closed =>
          obtain rfl := Option.some.inj cut
          rw [counted, components_dropSegments, components_eq, closed, List.nil_append]
      · next count counted opened =>
          obtain rfl := Option.some.inj cut
          obtain ⟨start, alone⟩ : ∃ start, openingComponent path = [start] := by
            rw [openingComponent] at opened ⊢
            split
            · next none => exact absurd (by rw [none]) opened
            · exact ⟨_, rfl⟩
          rw [counted, components_dropSegments, components_eq, alone, List.singleton_append,
            List.drop_succ_cons]
  · simp at cut

/-- What is left of a path below another one are the names that it was joined from. -/
theorem components_relativeTo?_joinAll (base : String) {parts : List String}
    (single : ∀ part ∈ parts, IsName part) :
    ∃ rest, relativeTo? base (joinAll base parts) = some rest ∧ components rest = parts := by
  have whole : components (joinAll base parts) = components base ++ parts :=
    components_joinAll single
  have starts : (components base).isPrefixOf (components (joinAll base parts)) = true := by
    rw [whole, List.isPrefixOf_iff_prefix]
    exact List.prefix_append _ _
  obtain ⟨rest, cut⟩ : ∃ rest, relativeTo? base (joinAll base parts) = some rest := by
    rw [relativeTo?, if_pos starts]
    split <;> exact ⟨_, rfl⟩
  refine ⟨rest, cut, ?_⟩
  rw [components_of_relativeTo? cut] at whole
  exact List.append_cancel_left whole

end Path
end ValueMethods
