import ValueMethods.Text.Quoted

/-!
# Data trees

What a document in a data format holds, whatever the format.  Entries of a map keep their order and
may repeat a key.  A tree also says where reading broke off, so that whoever takes the tree apart
from left to right meets the first fault of the document in its place.
-/

namespace ValueMethods

/-- The content of a document. -/
inductive DataTree where
  /-- No value. -/
  | null
  /-- A truth value. -/
  | bool (value : Bool)
  /-- An integer. -/
  | integer (value : Int)
  /-- A number with a fraction or an exponent, by the text it is shown as. -/
  | decimal (shown : String)
  /-- A text. -/
  | text (value : String)
  /-- A sequence. -/
  | list (items : List DataTree)
  /-- A map from keys. -/
  | map (entries : List (String × DataTree))
  /-- A scalar that is well formed and stands for no value. -/
  | unreadable
  /-- The value of an entry whose key is well formed and stands for no text. -/
  | underUnreadableKey (value : DataTree)
  /-- The place where the document is not well formed; nothing comes after it. -/
  | malformed

namespace DataTree

/-- What a tree is, in messages; nothing for a tree that stands for no value. -/
def kindText? : DataTree → Option String
  | .null => some "null"
  | .bool true => some "boolean `true`"
  | .bool false => some "boolean `false`"
  | .integer value => some ("integer `" ++ toString value ++ "`")
  | .decimal shown => some ("floating point `" ++ shown ++ "`")
  | .text value => some ("string " ++ Text.quoted value)
  | .list _ => some "sequence"
  | .map _ => some "map"
  | .unreadable => none
  | .underUnreadableKey _ => none
  | .malformed => none

mutual

/-- Whether the document is well formed throughout the tree. -/
def isWellFormed : DataTree → Bool
  | .list items => allWellFormed items
  | .map entries => entriesWellFormed entries
  | .underUnreadableKey value => value.isWellFormed
  | .malformed => false
  | .null => true
  | .bool _ => true
  | .integer _ => true
  | .decimal _ => true
  | .text _ => true
  | .unreadable => true

/-- Whether all trees of a list are well formed. -/
def allWellFormed : List DataTree → Bool
  | [] => true
  | first :: rest => first.isWellFormed && allWellFormed rest

/-- Whether the values of all entries are well formed. -/
def entriesWellFormed : List (String × DataTree) → Bool
  | [] => true
  | entry :: rest => entryWellFormed entry && entriesWellFormed rest

/-- Whether the value of an entry is well formed. -/
def entryWellFormed : String × DataTree → Bool
  | (_, value) => value.isWellFormed

end

/-! ## Making trees -/

/-- An optional text, null if there is none. -/
def ofText? (value : Option String) : DataTree :=
  match value with
  | some content => .text content
  | none => .null

/-- A list of texts. -/
def ofTexts (values : List String) : DataTree :=
  .list (values.map .text)

/-- An entry of a map that is left out if there is no value. -/
def optionalText (key : String) (value : Option String) : List (String × DataTree) :=
  match value with
  | some content => [(key, .text content)]
  | none => []

/-- An entry of a map that is left out if it is false. -/
def optionalFlag (key : String) (value : Bool) : List (String × DataTree) :=
  if value then [(key, .bool true)] else []

/-- An entry of a map that is left out if the list is empty. -/
def optionalList (key : String) (items : List DataTree) : List (String × DataTree) :=
  if items.isEmpty then [] else [(key, .list items)]

end DataTree

end ValueMethods
