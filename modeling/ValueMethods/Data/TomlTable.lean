import ValueMethods.Data.Tree

/-!
# Building TOML tables

A TOML document names tables in headers and entries by dotted keys, in any order.  What is there
already decides what may still be added: a header may open a table that was only passed through
before, dotted keys may extend only tables that dotted keys made, and a value is never extended.
-/

namespace ValueMethods
namespace Toml

mutual

/-- What a key of a table leads to. -/
inductive Item where
  /-- A value. -/
  | value (content : DataTree)
  /-- A table that headers or dotted keys made. -/
  | table (content : Table)
  /-- An array of tables, each opened by a header of its own. -/
  | tables (content : List Table)

/-- A table under construction. -/
inductive Table where
  /-- A table; `passed` if no header has opened it so far, `dotted` if dotted keys made it. -/
  | mk (passed dotted : Bool) (entries : List (String × Item))

end

namespace Table

/-- Whether no header has opened the table so far. -/
def passed : Table → Bool
  | mk passed _ _ => passed

/-- Whether dotted keys made the table. -/
def dotted : Table → Bool
  | mk _ dotted _ => dotted

/-- The entries of the table, in order. -/
def entries : Table → List (String × Item)
  | mk _ _ entries => entries

/-- A table that has been opened, without entries. -/
def opened : Table :=
  mk false false []

/-- The table with other entries. -/
def withEntries (table : Table) (entries : List (String × Item)) : Table :=
  mk table.passed table.dotted entries

end Table

/-- Replaces what a key leads to, or adds the key at the end. -/
def putItem (key : String) (item : Item) : List (String × Item) → List (String × Item)
  | [] => [(key, item)]
  | entry :: rest =>
      if entry.1 = key then (key, item) :: rest else entry :: putItem key item rest

/-- Changes the last table of an array. -/
def changeLast (change : Table → Option Table) : List Table → Option (List Table)
  | [] => none
  | [last] => (change last).map fun changed => [changed]
  | first :: next :: rest => (changeLast change (next :: rest)).map (first :: ·)

/-- Follows keys from a table and changes the table they lead to.  Missing tables are made on the
way; dotted keys do not pass through a table that a header has opened. -/
def follow (byDots : Bool) (change : Table → Option Table) : List String → Table → Option Table
  | [], table => change table
  | key :: rest, table =>
      let store (item : Item) : Table := table.withEntries (putItem key item table.entries)
      match table.entries.lookup key with
      | none => (follow byDots change rest (.mk true byDots [])).map fun made => store (.table made)
      | some (.value _) => none
      | some (.tables content) =>
          (changeLast (follow byDots change rest) content).map fun made => store (.tables made)
      | some (.table content) =>
          if byDots && !content.passed then none
          else (follow byDots change rest content).map fun made => store (.table made)

/-- Adds a value under a dotted key, which must be new. -/
def addValue (path : List String) (key : String) (value : DataTree) (table : Table) :
    Option Table :=
  follow true
    (fun target =>
      if target.dotted = path.isEmpty then none
      else if (target.entries.lookup key).isSome then none
      else some (target.withEntries (target.entries ++ [(key, .value value)])))
    path table

/-! ## Headers -/

/-- A document under construction. -/
structure Builder where
  /-- Everything but the open table. -/
  root : Table
  /-- The table that entries are added to. -/
  current : Table
  /-- Where the open table belongs. -/
  path : List String
  /-- Whether the open table is the next one of an array. -/
  inArray : Bool

namespace Builder

/-- The start of a document: its root table is open. -/
def start : Builder where
  root := .opened
  current := .opened
  path := []
  inArray := false

/-- Adds a value to the open table. -/
def add (builder : Builder) (path : List String) (key : String) (value : DataTree) :
    Option Builder :=
  (addValue path key value builder.current).map fun current => { builder with current }

/-- Puts the open table into its place. -/
def close (builder : Builder) : Option Table :=
  match builder.path.getLast? with
  | none => some builder.current
  | some key =>
      follow false
        (fun parent =>
          match parent.entries.lookup key, builder.inArray with
          | none, true =>
              some (parent.withEntries (parent.entries ++ [(key, .tables [builder.current])]))
          | some (.tables content), true =>
              some (parent.withEntries
                (putItem key (.tables (content ++ [builder.current])) parent.entries))
          | none, false =>
              some (parent.withEntries (parent.entries ++ [(key, .table builder.current)]))
          | _, _ => none)
        builder.path.dropLast builder.root

/-- The table that keys lead to; a missing one is empty. -/
def tableAt? : List String → Table → Option Table
  | [], table => some table
  | key :: rest, table =>
      match table.entries.lookup key with
      | none => some .opened
      | some (.value _) => none
      | some (.tables content) => content.getLast?.bind (tableAt? rest)
      | some (.table content) => tableAt? rest content

/-- The table that a header opens under a key of another table.  A table that was only passed
through keeps its entries; any other one must be new. -/
def openedUnder? (key : String) (parent : Table) : Option Table :=
  match parent.entries.lookup key with
  | none => some .opened
  | some (.table content) =>
      if content.passed && !content.dotted then some (.mk false false content.entries) else none
  | some _ => none

/-- Opens the table of a header.  The table leaves its place until it is closed, so it comes after
what its parent holds already. -/
def openTable (builder : Builder) (parents : List String) (key : String) : Option Builder := do
  let closed ← builder.close
  let parent ← tableAt? parents closed
  let current ← openedUnder? key parent
  let root ← follow false
    (fun target => some (target.withEntries (target.entries.filter fun entry => entry.1 ≠ key)))
    parents closed
  some { root, current, path := parents ++ [key], inArray := false }

/-- Opens the next table of the array of a header.  What is there already must be such an array. -/
def openArrayTable (builder : Builder) (parents : List String) (key : String) :
    Option Builder := do
  let root ← builder.close
  let root ← follow false
    (fun parent =>
      match parent.entries.lookup key with
      | none => some (parent.withEntries (parent.entries ++ [(key, .tables [])]))
      | some (.tables _) => some parent
      | some _ => none)
    parents root
  some { root, current := .opened, path := parents ++ [key], inArray := true }

end Builder

/-! ## Trees -/

mutual

/-- A table as a data tree. -/
def Table.tree : Table → DataTree
  | .mk _ _ entries => .map (entryTrees entries)

/-- What a key leads to as a data tree. -/
def Item.tree : Item → DataTree
  | .value content => content
  | .table content => content.tree
  | .tables content => .list (tableTrees content)

/-- The tables of an array as data trees. -/
def tableTrees : List Table → List DataTree
  | [] => []
  | first :: rest => first.tree :: tableTrees rest

/-- The entries of a table as data trees. -/
def entryTrees : List (String × Item) → List (String × DataTree)
  | [] => []
  | first :: rest => entryTree first :: entryTrees rest

/-- An entry of a table as a data tree. -/
def entryTree : String × Item → String × DataTree
  | (key, item) => (key, item.tree)

end

end Toml
end ValueMethods
