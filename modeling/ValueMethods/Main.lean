import Std.Time.DateTime.Timestamp
import ValueMethods.CommandLine.Places
import ValueMethods.CommandLine.Run

/-!
# The program

The command line of the program.  The files that a request can look at are taken into a file tree,
the run is computed on it, and what it changed is written back.
-/

namespace ValueMethods
namespace Machine

/-- What is at a path of the machine, without following links below a directory. -/
def entryAt (location : Location) : IO.FS.DirEntry :=
  { root := FileTree.pathTo location.dropLast, fileName := location.getLast?.getD "" }

/-- Takes what is at a location into a tree. -/
def take (tree : FileTree) (location : Location) : IO FileTree := do
  if (tree.node? location).isSome then
    return tree
  let entry := entryAt location
  match ← entry.path.metadata.toBaseIO with
  | .error _ => return tree
  | .ok known =>
      match known.type with
      | .dir => return tree.put location .directory
      | .file => return tree.put location (.file (← IO.FS.readBinFile entry.path))
      | _ => return tree

/-- Takes what is below a directory into a tree, without following links. -/
partial def takeBelow (tree : FileTree) (location : Location) : IO FileTree := do
  if tree.node? location != some .directory then
    return tree
  let mut grown := tree
  for entry in ← (entryAt location).path.readDir do
    let known ← entry.path.symlinkMetadata
    if known.type != .symlink then
      let below := location ++ [entry.fileName]
      grown ← takeBelow (← take grown below) below
  return grown

/-- Takes what a path passes into a tree. -/
def takePath (tree : FileTree) (path : String) : IO FileTree :=
  (tree.passedBy path).foldlM take tree

/-- Takes a path and all that is below it into a tree. -/
def takePlace (tree : FileTree) (path : String) : IO FileTree := do
  let passed := tree.passedBy path
  takeBelow (← takePath tree path) (passed.getLast?.getD [])

/-- Makes a change on the machine. -/
def make (change : Location × Node) : IO Unit :=
  let path := FileTree.pathTo change.1
  match change.2 with
  | .directory => IO.FS.createDir path
  | .file content => IO.FS.writeBinFile path content

/-- The time. -/
def moment : IO Moment := do
  let nanoseconds := (← Std.Time.Timestamp.now).toNanosecondsSinceUnixEpoch.val.toNat
  return ⟨nanoseconds / 1000000000, nanoseconds % 1000000000⟩

/-- Whether colours are wanted: forced, refused, or by default on a terminal. -/
def colours : IO Bool := do
  let given (name : String) : IO (Option Bool) := do
    return (← IO.getEnv name).map fun value => value != "0"
  if (← given "CLICOLOR_FORCE") == some true then
    return true
  else if (← given "NO_COLOR").isSome then
    return false
  else
    return ((← given "CLICOLOR").getD true) && (← (← IO.getStdout).isTty)

end Machine

/-- Runs the program on the machine. -/
def runOnMachine (arguments : List String) : IO UInt32 := do
  let current := (← IO.currentDir).toString
  let empty : FileTree :=
    { entries := [], current := (Text.pieces '/' current).filter fun name => !name.isEmpty }
  let settled ←
    (current :: Project.settingsPathsAbove empty.currentPath).foldlM Machine.takePath empty
  let places := (Request.read arguments).places settled
  let files ← places.foldlM Machine.takePlace settled
  let result := Program.run arguments ⟨files, ← Machine.moment, ← Machine.colours⟩
  (files.changesTo result.files).forM Machine.make
  (← IO.getStdout).putStr result.output
  (← IO.getStderr).putStr result.errors
  return UInt32.ofNat result.code

end ValueMethods

def main (arguments : List String) : IO UInt32 :=
  ValueMethods.runOnMachine arguments
