import ValueMethods.Data.Tree

/-!
# Taking data trees apart

Reading values of known types off a data tree.  A record is given as a map from the names of its
fields, or as a list of its fields in order.  Everything is looked at in the order of the text, and
the first fault is the one that is reported.  Entries of a map that nothing is made of are skipped.
-/

namespace ValueMethods

/-- Why a data tree is not what is asked for. -/
inductive DataFault where
  /-- The text is not well formed. -/
  | malformed
  /-- A record lacks a field. -/
  | missingField (field : String)
  /-- A record has a field twice. -/
  | repeatedField (field : String)
  /-- A value is not of the kind that its place asks for. -/
  | wrongKind (found expected : String)
  /-- A record given as a list has no fields at all. -/
  | tooShort (expected : String)
  deriving DecidableEq

/-- The text shown for a fault of the content; a text that is not well formed has none here. -/
def DataFault.message? : DataFault → Option String
  | .malformed => none
  | .missingField field => some ("missing field `" ++ field ++ "`")
  | .repeatedField field => some ("duplicate field `" ++ field ++ "`")
  | .wrongKind found expected => some ("invalid type: " ++ found ++ ", expected " ++ expected)
  | .tooShort expected => some ("invalid length 0, expected " ++ expected)

namespace Decode

/-! ## Values -/

/-- The fault of a tree that is not of the expected kind. -/
def mismatch (expected : String) (tree : DataTree) : DataFault :=
  match tree.kindText? with
  | some found => .wrongKind found expected
  | none => .malformed

/-- A text. -/
def text : DataTree → Except DataFault String
  | .text value => .ok value
  | tree => .error (mismatch "a string" tree)

/-- A text that may be null. -/
def optionalText : DataTree → Except DataFault (Option String)
  | .null => .ok none
  | tree => (text tree).map some

/-- A truth value. -/
def flag : DataTree → Except DataFault Bool
  | .bool value => .ok value
  | tree => .error (mismatch "a boolean" tree)

/-- The results for all items of a list, up to the first fault. -/
def all {α : Type} (decode : DataTree → Except DataFault α) :
    List DataTree → Except DataFault (List α)
  | [] => .ok []
  | first :: rest =>
      match decode first with
      | .error fault => .error fault
      | .ok value => (all decode rest).map (value :: ·)

/-- A list. -/
def list {α : Type} (decode : DataTree → Except DataFault α) :
    DataTree → Except DataFault (List α)
  | .list items => all decode items
  | tree => .error (mismatch "a sequence" tree)

/-- A value that nothing is made of; it only has to be well formed. -/
def skip (tree : DataTree) : Except DataFault Unit :=
  match tree with
  | .underUnreadableKey _ => .error .malformed
  | other => if other.isWellFormed then .ok () else .error .malformed

/-! ## Records -/

/-- A field of a record under construction, given a value for the first time. -/
def assign {α : Type} (field : String) (known : Option α)
    (decode : DataTree → Except DataFault α) (tree : DataTree) :
    Except DataFault (Option α) :=
  if known.isSome then .error (.repeatedField field) else (decode tree).map some

/-- Takes the next item of a list for a field; without one the field stays open. -/
def next {α : Type} (decode : DataTree → Except DataFault α) :
    List DataTree → Except DataFault (Option α × List DataTree)
  | [] => .ok (none, [])
  | first :: rest => (decode first).map fun value => (some value, rest)

/-- How a record given as a list ends: more items than fields are taken for a broken text, unless
the format lets them pass. -/
def finish (lenient : Bool) (rest : List DataTree) : Except DataFault Unit :=
  if rest.isEmpty || lenient then .ok () else .error .malformed

/-- A record with the entries of a map taken in, one by one. -/
def foldEntries {σ : Type} (step : σ → String → DataTree → Except DataFault σ) :
    σ → List (String × DataTree) → Except DataFault σ
  | state, [] => .ok state
  | state, (key, value) :: rest =>
      match step state key value with
      | .error fault => .error fault
      | .ok changed => foldEntries step changed rest

end Decode

end ValueMethods
