import ValueMethods.Files.Path

/-!
# File trees

The files and directories that a run can see, as a value.  A location is a list of names from the
root; every location but the root that a tree holds lies in a directory of the tree.  A path is
followed name by name from the root or from the current directory, and the first obstacle decides
the error.  A tree also knows which files have been written, so a file that is left alone can be
told from one that is written with what it holds already.
-/

namespace ValueMethods

/-- Names from the root of a file tree. -/
abbrev Location := List String

/-- What can be at a location. -/
inductive Node where
  /-- A directory. -/
  | directory
  /-- A file with its bytes. -/
  | file (content : ByteArray)

/-- Files are compared by their bytes. -/
instance : DecidableEq Node
  | .directory, .directory => isTrue rfl
  | .directory, .file _ => isFalse Node.noConfusion
  | .file _, .directory => isFalse Node.noConfusion
  | .file first, .file second =>
      match ByteArray.decEq first second with
      | isTrue same => isTrue (same ▸ rfl)
      | isFalse differs => isFalse fun same => differs (Node.file.inj same)

/-- Whether bytes are those of a text. -/
def isTextOf (content : ByteArray) (text : String) : Bool :=
  match ByteArray.decEq content text.toUTF8 with
  | isTrue _ => true
  | isFalse _ => false

theorem isTextOf_iff (content : ByteArray) (text : String) :
    isTextOf content text = true ↔ content = text.toUTF8 := by
  unfold isTextOf
  split
  · rename_i same _
    exact ⟨fun _ => same, fun _ => rfl⟩
  · rename_i differs _
    exact ⟨fun holds => absurd holds Bool.false_ne_true, fun same => absurd same differs⟩

/-- Why the file system refuses something. -/
inductive FileError where
  /-- There is nothing at the path. -/
  | notFound
  /-- There is something at the path already. -/
  | exists
  /-- The path goes through a file. -/
  | notDirectory
  /-- The path leads to a directory. -/
  | isDirectory
  /-- A name or the whole path is too long. -/
  | nameTooLong
  /-- The path holds a NUL character. -/
  | nulInPath
  /-- The content is not text. -/
  | notText
  deriving DecidableEq

/-- The text shown for the error. -/
def FileError.message : FileError → String
  | .notFound => "No such file or directory (os error 2)"
  | .exists => "File exists (os error 17)"
  | .notDirectory => "Not a directory (os error 20)"
  | .isDirectory => "Is a directory (os error 21)"
  | .nameTooLong => "File name too long (os error 36)"
  | .nulInPath => "file name contained an unexpected NUL byte"
  | .notText => "stream did not contain valid UTF-8"

/-- A message followed by what the file system said, if it was asked. -/
def FileError.explain (message : String) (cause : Option FileError) : String :=
  match cause with
  | some error => message ++ ": " ++ error.message
  | none => message

/-- Files and directories, and the directory that relative paths start from. -/
structure FileTree where
  /-- What is where; the root is a directory and is not listed. -/
  entries : List (Location × Node)
  /-- The current directory. -/
  current : Location
  /-- Where files have been written, in order. -/
  written : List Location := []
  deriving DecidableEq

/-- Where a path leads. -/
inductive Destination where
  /-- To something that is there. -/
  | present (location : Location) (node : Node)
  /-- To a free name in a directory. -/
  | absent (location : Location)
  deriving DecidableEq

namespace FileTree

/-- The tree with nothing but its root. -/
def empty : FileTree where
  entries := []
  current := []

/-- What is at a location. -/
def node? (tree : FileTree) (location : Location) : Option Node :=
  if location = [] then some .directory else tree.entries.lookup location

/-- The entries with a node put at a location, in place of what was there. -/
def putEntry (location : Location) (node : Node) :
    List (Location × Node) → List (Location × Node)
  | [] => [(location, node)]
  | entry :: rest =>
      if entry.1 = location then (location, node) :: rest
      else entry :: putEntry location node rest

/-- Puts a node at a location. -/
def put (tree : FileTree) (location : Location) (node : Node) : FileTree :=
  { tree with entries := putEntry location node tree.entries }

/-- Puts a file at a location and notes that it has been written. -/
def store (tree : FileTree) (location : Location) (content : ByteArray) : FileTree :=
  { tree.put location (.file content) with written := tree.written ++ [location] }

theorem lookup_putEntry (location : Location) (node : Node) (entries : List (Location × Node))
    (other : Location) :
    (putEntry location node entries).lookup other =
      if other = location then some node else entries.lookup other := by
  induction entries with
  | nil =>
      by_cases same : other = location
      · simp [putEntry, same]
      · have differs : (other == location) = false := by simpa using same
        simp [putEntry, List.lookup_cons, same, differs]
  | cons entry rest ih =>
      obtain ⟨place, known⟩ := entry
      unfold putEntry
      by_cases found : other = place
      · subst found
        by_cases here : other = location <;> simp [here]
      · have differs : (other == place) = false := by simpa using found
        by_cases here : place = location
        · subst here
          simp [List.lookup_cons, differs, found]
        · simp [List.lookup_cons, differs, here, ih]

/-- Putting a node at a location changes that location and no other. -/
theorem node?_put (tree : FileTree) {location : Location} (node : Node) (other : Location)
    (inside : location ≠ []) :
    (tree.put location node).node? other =
      if other = location then some node else tree.node? other := by
  by_cases root : other = []
  · have differs : other ≠ location := fun same => inside (same ▸ root)
    simp [node?, root, Ne.symm inside]
  · simp [node?, put, root, lookup_putEntry]

/-- A stored file is there, and everything else is as it was. -/
theorem node?_store (tree : FileTree) {location : Location} (content : ByteArray)
    (other : Location) (inside : location ≠ []) :
    (tree.store location content).node? other =
      if other = location then some (.file content) else tree.node? other :=
  tree.node?_put (.file content) other inside

/-- The path of the current directory from the root. -/
def currentPath (tree : FileTree) : String :=
  "/" ++ Text.joinWith "/" tree.current

/-! ## Following paths -/

/-- The greatest number of bytes in a name. -/
def nameLimit : Nat := 255

/-- The number of bytes from which a path is too long. -/
def pathLimit : Nat := 4096

/-- Follows names from a directory.  Void names are skipped, and two dots lead to the directory
above. -/
def follow (tree : FileTree) : Location → List String → Except FileError Destination
  | place, [] => .ok (.present place .directory)
  | place, name :: rest =>
      if name = "" || name = "." then
        tree.follow place rest
      else if name = ".." then
        tree.follow place.dropLast rest
      else if nameLimit < name.utf8ByteSize then
        .error .nameTooLong
      else
        match tree.node? (place ++ [name]) with
        | some .directory => tree.follow (place ++ [name]) rest
        | some (.file content) =>
            if rest = [] then .ok (.present (place ++ [name]) (.file content))
            else .error .notDirectory
        | none =>
            if rest.all String.isEmpty then .ok (.absent (place ++ [name])) else .error .notFound

/-- Where a path leads. -/
def destination (tree : FileTree) (path : String) : Except FileError Destination :=
  if '\x00' ∈ path.toList then
    .error .nulInPath
  else if path.isEmpty then
    .error .notFound
  else if pathLimit ≤ path.utf8ByteSize then
    .error .nameTooLong
  else if path.toList.head? = some '/' then
    tree.follow [] (Text.pieces '/' path)
  else
    tree.follow tree.current (Text.pieces '/' path)

/-- Whether there is something at the path. -/
def hasPath (tree : FileTree) (path : String) : Bool :=
  match tree.destination path with
  | .ok (.present _ _) => true
  | _ => false

/-- Whether the path leads to a file. -/
def isFile (tree : FileTree) (path : String) : Bool :=
  match tree.destination path with
  | .ok (.present _ (.file _)) => true
  | _ => false

/-- Whether the path leads to a directory. -/
def isDirectory (tree : FileTree) (path : String) : Bool :=
  match tree.destination path with
  | .ok (.present _ .directory) => true
  | _ => false

/-! ## Reading and writing -/

/-- The bytes of a file. -/
def read (tree : FileTree) (path : String) : Except FileError ByteArray :=
  match tree.destination path with
  | .ok (.present _ (.file content)) => .ok content
  | .ok (.present _ .directory) => .error .isDirectory
  | .ok (.absent _) => .error .notFound
  | .error error => .error error

/-- The text of a file. -/
def readText (tree : FileTree) (path : String) : Except FileError String :=
  match tree.read path with
  | .error error => .error error
  | .ok content =>
      match String.fromUTF8? content with
      | some text => .ok text
      | none => .error .notText

/-- Writes a file, in place of an earlier one. -/
def write (tree : FileTree) (path : String) (content : ByteArray) : Except FileError FileTree :=
  match tree.destination path with
  | .ok (.present location (.file _)) => .ok (tree.store location content)
  | .ok (.present _ .directory) => .error .isDirectory
  | .ok (.absent location) =>
      if path.toList.getLast? = some '/' then .error .isDirectory
      else .ok (tree.store location content)
  | .error error => .error error

/-- Makes a directory in a directory that is there. -/
def makeDirectory (tree : FileTree) (path : String) : Except FileError FileTree :=
  match tree.destination path with
  | .ok (.present _ _) => .error .exists
  | .ok (.absent location) => .ok (tree.put location .directory)
  | .error error => .error error

/-- Makes the first directory of the list, after those further down the list if they are missing.
What was made before an obstacle stays. -/
def makeChain (tree : FileTree) : List String → FileTree × Except FileError Unit
  | [] => (tree, .error .notFound)
  | path :: above =>
      if path = "" then
        (tree, .ok ())
      else
        match tree.makeDirectory path with
        | .ok changed => (changed, .ok ())
        | .error .notFound =>
            match tree.makeChain above with
            | (changed, .error error) => (changed, .error error)
            | (changed, .ok ()) =>
                match changed.makeDirectory path with
                | .ok final => (final, .ok ())
                | .error error =>
                    (changed, if changed.isDirectory path then .ok () else .error error)
        | .error error => (tree, if tree.isDirectory path then .ok () else .error error)

/-- Makes a directory and the directories above it, as far as they are missing. -/
def makeDirectories (tree : FileTree) (path : String) : FileTree × Except FileError Unit :=
  tree.makeChain (Path.ancestors path)

/-! ## Listing -/

/-- What is below a location, with the names from there on. -/
def below (tree : FileTree) (location : Location) : List (Location × Node) :=
  tree.entries.filterMap fun entry =>
    if location.isPrefixOf entry.1 && location.length < entry.1.length then
      some (entry.1.drop location.length, entry.2)
    else
      none

/-! ## Trees of a machine -/

/-- The locations that following names from a directory passes, the last one included. -/
def passed (place : Location) : List String → List Location
  | [] => []
  | name :: rest =>
      if name = "" || name = "." then passed place rest
      else if name = ".." then passed place.dropLast rest
      else (place ++ [name]) :: passed (place ++ [name]) rest

/-- The locations that following a path passes. -/
def passedBy (tree : FileTree) (path : String) : List Location :=
  if path.toList.head? = some '/' then passed [] (Text.pieces '/' path)
  else passed tree.current (Text.pieces '/' path)

/-- The path of a location from the root. -/
def pathTo (location : Location) : String :=
  "/" ++ Text.joinWith "/" location

/-- What has to be made on a machine after a run: what is new or has changed since the earlier tree,
and the files that have been written, in an order in which it can be made. -/
def changesTo (before after : FileTree) : List (Location × Node) :=
  after.entries.filter fun entry =>
    before.node? entry.1 != some entry.2 || after.written.contains entry.1

end FileTree

end ValueMethods
