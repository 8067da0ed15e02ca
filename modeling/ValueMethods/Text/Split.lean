import ValueMethods.Text.CharTables

/-!
# Cutting and joining

Cutting a text at every occurrence of a separator, or the blanks from its ends, and putting pieces
together again.  Splitting keeps empty pieces, so joining the pieces with the separator gives the
text back.
-/

namespace ValueMethods
namespace Text

/-- The pieces between the occurrences of `separator`, empty ones included. -/
def splitOn (separator : Char) : List Char → List (List Char)
  | [] => [[]]
  | c :: rest =>
      if c = separator then
        [] :: splitOn separator rest
      else
        match splitOn separator rest with
        | [] => [[c]]
        | piece :: pieces => (c :: piece) :: pieces

/-- The pieces of a string between the occurrences of `separator`. -/
def pieces (separator : Char) (text : String) : List String :=
  (splitOn separator text.toList).map String.ofList

/-- The pieces one after the other, with `separator` between neighbours. -/
def joinWith (separator : String) : List String → String
  | [] => ""
  | [piece] => piece
  | piece :: next :: rest => piece ++ separator ++ joinWith separator (next :: rest)

/-- The strings one after the other. -/
def concat : List String → String
  | [] => ""
  | piece :: rest => piece ++ concat rest

/-- The text `count` times over. -/
def repeated (count : Nat) (text : String) : String :=
  concat (List.replicate count text)

/-- The part before the first `separator`, or the whole text if there is none. -/
def beforeFirst (separator : Char) (text : List Char) : List Char :=
  text.takeWhile (· ≠ separator)

/-- The part after the last `separator`, or the whole text if there is none. -/
def afterLast (separator : Char) (text : List Char) : List Char :=
  (text.reverse.takeWhile (· ≠ separator)).reverse

/-- The part before the last `separator`, or nothing if there is none. -/
def beforeLast? (separator : Char) (text : List Char) : Option (List Char) :=
  match text.reverse.dropWhile (· ≠ separator) with
  | [] => none
  | _ :: front => some front.reverse

/-- Whether `pattern` opens the text; the rest of the text if it does. -/
def dropPrefix? : List Char → List Char → Option (List Char)
  | [], text => some text
  | _ :: _, [] => none
  | p :: pattern, c :: text => if p = c then dropPrefix? pattern text else none

/-- Whether the string starts with the given one. -/
def startsWith (text opening : String) : Bool :=
  (dropPrefix? opening.toList text.toList).isSome

/-- The text without its leading blank characters. -/
def trimLeft (text : List Char) : List Char :=
  text.dropWhile isBlank

/-- The text without its trailing blank characters. -/
def trimRight (text : List Char) : List Char :=
  (text.reverse.dropWhile isBlank).reverse

/-- The text without its leading and trailing blank characters. -/
def trim (text : List Char) : List Char :=
  trimLeft (trimRight text)

/-- A string without its leading and trailing blank characters. -/
def trimmed (text : String) : String :=
  String.ofList (trim text.toList)

theorem splitOn_ne_nil (separator : Char) (text : List Char) : splitOn separator text ≠ [] := by
  cases text with
  | nil => simp [splitOn]
  | cons c rest =>
      simp only [splitOn]
      split
      · simp
      · split <;> simp

/-- A text without the separator is one piece. -/
theorem splitOn_of_not_mem {separator : Char} {text : List Char} (absent : separator ∉ text) :
    splitOn separator text = [text] := by
  induction text with
  | nil => rfl
  | cons c rest ih =>
      simp only [List.mem_cons, not_or] at absent
      simp [splitOn, Ne.symm absent.1, ih absent.2]

/-- What follows the last separator is the text behind one that no other follows. -/
theorem afterLast_append_cons {separator : Char} (front : List Char) {back : List Char}
    (absent : separator ∉ back) : afterLast separator (front ++ separator :: back) = back := by
  have apart (c : Char) (member : c ∈ back.reverse) : (decide (c ≠ separator)) = true :=
    decide_eq_true fun same => absent (same ▸ List.mem_reverse.mp member)
  have split : (front ++ separator :: back).reverse = back.reverse ++ separator :: front.reverse :=
    by simp
  rw [afterLast, split, List.takeWhile_append_of_pos apart, List.takeWhile_cons_of_neg (by simp),
    List.append_nil, List.reverse_reverse]

theorem beforeLast?_append_cons {separator : Char} (front : List Char) {back : List Char}
    (absent : separator ∉ back) :
    beforeLast? separator (front ++ separator :: back) = some front := by
  have apart (c : Char) (member : c ∈ back.reverse) : (decide (c ≠ separator)) = true :=
    decide_eq_true fun same => absent (same ▸ List.mem_reverse.mp member)
  have split : (front ++ separator :: back).reverse = back.reverse ++ separator :: front.reverse :=
    by simp
  rw [beforeLast?, split, List.dropWhile_append_of_pos apart, List.dropWhile_cons_of_neg (by simp)]
  simp

@[simp]
theorem concat_nil : concat [] = "" := rfl

@[simp]
theorem concat_cons (piece : String) (rest : List String) :
    concat (piece :: rest) = piece ++ concat rest := rfl

theorem concat_append (front back : List String) :
    concat (front ++ back) = concat front ++ concat back := by
  induction front with
  | nil => simp
  | cons piece rest ih => rw [List.cons_append, concat_cons, ih, concat_cons, String.append_assoc]

theorem toList_concat (pieces : List String) :
    (concat pieces).toList = pieces.flatMap String.toList := by
  induction pieces with
  | nil => rfl
  | cons piece rest ih => rw [concat_cons, String.toList_append, ih, List.flatMap_cons]

theorem toList_repeated (count : Nat) (text : String) :
    (repeated count text).toList = (List.replicate count text.toList).flatten := by
  rw [repeated, toList_concat, List.flatMap_def, List.map_replicate]

@[simp]
theorem joinWith_nil (separator : String) : joinWith separator [] = "" := rfl

@[simp]
theorem joinWith_singleton (separator piece : String) : joinWith separator [piece] = piece := rfl

@[simp]
theorem joinWith_cons_cons (separator piece next : String) (rest : List String) :
    joinWith separator (piece :: next :: rest) =
      piece ++ separator ++ joinWith separator (next :: rest) := rfl

end Text
end ValueMethods
