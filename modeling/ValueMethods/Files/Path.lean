import ValueMethods.Text.Split

/-!
# Paths

File paths as text.  A path is an optional opening, which is a slash or a leading dot, and a body
of segments between slashes.  Empty segments and single dots in the body name nothing, so several
texts can have the same components, but a text is never changed when it is joined or shown.
-/

namespace ValueMethods
namespace Path

/-! ## Joining -/

/-- A path below another one.  A part that starts at the root stands for itself. -/
def join (base part : String) : String :=
  if part.toList.head? = some '/' then part
  else if base.isEmpty || base.toList.getLast? = some '/' then base ++ part
  else base ++ "/" ++ part

/-- Parts joined one after the other. -/
def joinAll (base : String) (parts : List String) : String :=
  parts.foldl join base

/-! ## Components -/

/-- The opening of a path and its body. -/
def opening : List Char → List Char × List Char
  | '/' :: body => (['/'], body)
  | ['.'] => (['.'], [])
  | '.' :: '/' :: body => (['.'], '/' :: body)
  | body => ([], body)

/-- Whether a segment of the body names nothing. -/
def isVoid (segment : List Char) : Bool :=
  segment == [] || segment == ['.']

/-- The segments of the body of a path, void ones included. -/
def bodySegments (path : String) : List (List Char) :=
  Text.splitOn '/' (opening path.toList).2

/-- The opening of a path as a component. -/
def openingComponent (path : String) : List String :=
  match (opening path.toList).1 with
  | [] => []
  | start => [String.ofList start]

/-- What a path names, step by step: the opening and the segments that are not void. -/
def components (path : String) : List String :=
  openingComponent path ++
    ((bodySegments path).filter fun segment => !isVoid segment).map String.ofList

/-- Segments with slashes between them. -/
def segmentText (segments : List (List Char)) : String :=
  Text.joinWith "/" (segments.map String.ofList)

/-- The segments without void ones at the end. -/
def dropVoidEnd (segments : List (List Char)) : List (List Char) :=
  (segments.reverse.dropWhile isVoid).reverse

/-- The path without its last component, or nothing for the root and the empty path. -/
def parent? (path : String) : Option String :=
  let start := (opening path.toList).1
  match (bodySegments path).reverse.dropWhile isVoid with
  | [] => if start = ['.'] then some "" else none
  | _ :: front => some (String.ofList start ++ segmentText (dropVoidEnd front.reverse))

/-- The path, its parent, and so on, at most `limit` of them. -/
def ancestorsUpTo : Nat → String → List String
  | 0, _ => []
  | limit + 1, path =>
      path ::
        match parent? path with
        | some above => ancestorsUpTo limit above
        | none => []

/-- The path, its parent, and so on.  A parent has fewer characters, so the list is complete. -/
def ancestors (path : String) : List String :=
  ancestorsUpTo (path.length + 1) path

/-! ## Names and extensions -/

/-- The part of a file name after its last dot, unless that dot is the first character. -/
def extensionOf (name : List Char) : Option String :=
  match Text.beforeLast? '.' name with
  | some (_ :: _) => some (String.ofList (Text.afterLast '.' name))
  | _ => none

/-- The last component of a path if it is a name. -/
def fileName? (path : String) : Option (List Char) :=
  match (bodySegments path).reverse.dropWhile isVoid with
  | [] => none
  | name :: _ => if name = ['.', '.'] then none else some name

/-- The extension of what a path names. -/
def extension? (path : String) : Option String :=
  (fileName? path).bind extensionOf

/-! ## Relative paths -/

/-- The segments after the first `count` that are not void. -/
def dropSegments : Nat → List (List Char) → List (List Char)
  | 0, segments => segments.dropWhile isVoid
  | _ + 1, [] => []
  | count + 1, segment :: rest =>
      if isVoid segment then dropSegments (count + 1) rest else dropSegments count rest

/-- The rest of a path after another one that it starts with, component by component. -/
def relativeTo? (base path : String) : Option String :=
  let known := components base
  if known.isPrefixOf (components path) then
    match known.length, openingComponent path with
    | 0, [] => some (segmentText (dropVoidEnd (bodySegments path)))
    | 0, start =>
        some (Text.concat start ++ segmentText (dropVoidEnd (bodySegments path)))
    | count + 1, [] =>
        some (segmentText (dropVoidEnd (dropSegments (count + 1) (bodySegments path))))
    | count + 1, _ => some (segmentText (dropVoidEnd (dropSegments count (bodySegments path))))
  else
    none

end Path
end ValueMethods
