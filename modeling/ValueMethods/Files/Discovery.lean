import ValueMethods.Files.Tree

/-!
# Finding model documents

The documents below a root: files whose extension is that of a document format and that are
neither hidden nor build output.  Only names below the root count for that.  They are listed in the
order of their names, component by component, so the order does not depend on how a directory is
read.  A directory is opened by its path from the root on, and one whose path is too long for that
is passed over with all that is below it.
-/

namespace ValueMethods
namespace Discovery

/-- The extensions of document files. -/
def documentExtensions : List String :=
  ["toml", "json"]

/-- Whether a name hides what is at it or below it. -/
def isHidden (name : String) : Bool :=
  name.toList.head? = some '.' || name == "target"

/-- Whether a file with these names below the root is a document. -/
def isDocument (names : Location) : Bool :=
  match names.getLast? with
  | none => false
  | some name =>
      ((Path.extensionOf name.toList).any fun extension => documentExtensions.contains extension) &&
        !names.any isHidden

/-- Whether a location comes before another one, or is the same. -/
def atMost (first second : Location) : Bool :=
  !decide (second < first)

/-- Whether the directory of what has these names below the root can be opened.  The path of a
directory further up is shorter, so that one can be opened too. -/
def isReached (root : String) (names : Location) : Bool :=
  decide ((Path.joinAll root names.dropLast).utf8ByteSize < FileTree.pathLimit)

/-- The documents below the location of a root, as names from there on, in order. -/
def documentsBelow (tree : FileTree) (root : String) (location : Location) : List Location :=
  let files := (tree.below location).filterMap fun entry =>
    match entry.2 with
    | .file _ => if isDocument entry.1 && isReached root entry.1 then some entry.1 else none
    | .directory => none
  files.mergeSort atMost

/-- The paths of the documents at a root.  A root that is a file is taken as it is, and a root that
leads nowhere has no documents. -/
def documents (tree : FileTree) (root : String) : List String :=
  match tree.destination root with
  | .ok (.present _ (.file _)) => [root]
  | .ok (.present location .directory) =>
      (documentsBelow tree root location).map (Path.joinAll root)
  | _ => []

end Discovery
end ValueMethods
