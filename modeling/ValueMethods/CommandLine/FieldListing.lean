import ValueMethods.ClassModel.Identity
import ValueMethods.CommandLine.Loading
import ValueMethods.CommandLine.Request

/-!
# Listing identity fields

The fields of a class in the order in which they make up its identity: first those of its
ancestors, the root's first, then its own.  Static fields of the class are listed in their place,
but they have no position; those of ancestors are not listed.
-/

namespace ValueMethods

/-- What a field has to do with the identity of a class. -/
inductive FieldRole where
  /-- It is part of it and declared by an ancestor. -/
  | inherited
  /-- It is part of it and declared by the class. -/
  | own
  /-- It is not part of it. -/
  | static
  deriving DecidableEq

/-- The role in words. -/
def FieldRole.text : FieldRole → String
  | .inherited => "inherited"
  | .own => "own"
  | .static => "static"

/-- A line of a listing. -/
structure FieldRow where
  /-- The position in the identity, from 1 on. -/
  position : Option Nat
  /-- Name of the field. -/
  name : String
  /-- Text of the type. -/
  type : String
  /-- Simple name of the class that declares the field. -/
  owner : String
  /-- What the field has to do with the identity. -/
  role : FieldRole
  deriving DecidableEq

/-- The listing of one class. -/
structure ClassListing where
  /-- Qualified name of the class. -/
  name : String
  /-- Name of the superclass, if there is one. -/
  superclass : Option String
  /-- The fields, in order. -/
  rows : List FieldRow
  deriving DecidableEq

/-! ## Rows -/

/-- Rows under construction. -/
structure RowDraft where
  /-- The last position that was given. -/
  position : Nat
  /-- The rows so far, in order. -/
  rows : List FieldRow
  deriving DecidableEq

namespace RowDraft

/-- No rows, and no position given. -/
def empty : RowDraft where
  position := 0
  rows := []

/-- Adds the row of a field that has the next position. -/
def place (role : FieldRole) (owner : String) (draft : RowDraft) (field : Field) : RowDraft where
  position := draft.position + 1
  rows := draft.rows ++ [⟨some (draft.position + 1), field.name, field.type, owner, role⟩]

/-- Adds the row of a field that has no position. -/
def pass (owner : String) (draft : RowDraft) (field : Field) : RowDraft :=
  { draft with rows := draft.rows ++ [⟨none, field.name, field.type, owner, .static⟩] }

/-- Adds the rows of the instance fields of an ancestor. -/
def inherit (model : ClassModel) (draft : RowDraft) (ancestor : ClassId) : RowDraft :=
  (instanceFields (model.fieldsOf ancestor)).foldl (place .inherited (model.simpleName ancestor))
    draft

/-- Adds the row of a field that the class declares itself. -/
def declare (owner : String) (draft : RowDraft) (field : Field) : RowDraft :=
  if field.isStatic then draft.pass owner field else draft.place .own owner field

/-- The rows of a class: first those of its ancestors, then its own. -/
def of (model : ClassModel) (id : ClassId) : RowDraft :=
  (model.fieldsOf id).foldl (declare (model.simpleName id))
    ((model.ancestors id).foldl (inherit model) empty)

end RowDraft

namespace ClassListing

/-- The name of the superclass of a class, qualified if it is in the model. -/
def superclassName? (model : ClassModel) (id : ClassId) : Option String :=
  match (model.class? id).bind ClassDecl.superclass with
  | some (.inModel parent) => some (model.qualifiedName parent)
  | some (.external name) => some name
  | none => none

/-- The listing of a class. -/
def of (model : ClassModel) (id : ClassId) : ClassListing where
  name := model.qualifiedName id
  superclass := superclassName? model id
  rows := (RowDraft.of model id).rows

/-! ## Printing -/

/-- A row as data. -/
def rowTree (row : FieldRow) : DataTree :=
  .map
    [("position", match row.position with
        | some position => .integer position
        | none => .null),
      ("name", .text row.name), ("field_type", .text row.type),
      ("declared_in", .text row.owner), ("role", .text row.role.text)]

/-- The listing as data. -/
def tree (listing : ClassListing) : DataTree :=
  .map ([("class", .text listing.name)] ++
    DataTree.optionalText "superclass" listing.superclass ++
    [("fields", .list (listing.rows.map rowTree))])

/-- The cells of a row, with `label` for the class. -/
def rowCells (label : String) (row : FieldRow) : List String :=
  [label, row.position.elim "" fun position => toString position, row.name, row.type, row.owner,
    row.role.text]

/-- The rows of a table for the class.  Only the first one names the class. -/
def tableRows (listing : ClassListing) : List (List String) :=
  match listing.rows with
  | [] => [[listing.name, "", "(no fields)"]]
  | first :: rest => rowCells listing.name first :: rest.map (rowCells "")

/-- The line for the class where each class has one line: the identity fields by name. -/
def compactLine (listing : ClassListing) : String :=
  listing.name ++ ": " ++
    Text.joinWith ", " ((listing.rows.filter fun row => row.role != .static).map FieldRow.name)

end ClassListing

namespace FieldListing

/-- Several listings as data. -/
def tree (listings : List ClassListing) : DataTree :=
  .map [("classes", .list (listings.map ClassListing.tree))]

/-- The table of several listings. -/
def table (listings : List ClassListing) : Table where
  header := ["Class", "#", "Field", "Type", "Declared in", "Role"]
  rows := listings.flatMap ClassListing.tableRows

/-- Prints listings. -/
def print (listings : List ClassListing) (screen : Screen) : Screen :=
  match screen.manner.format with
  | .json => screen.json (tree listings)
  | .table =>
      let headed := screen.heading "Identity Fields"
      headed.print ((table listings).text headed.tableStyle ++ "\n")
  | .compact =>
      (screen.heading "Identity Fields").print
        (Text.joinWith "\n" (listings.map ClassListing.compactLine) ++ "\n")

/-- The classes to list: the one that is asked for, or all. -/
def selected (model : ClassModel) (name : Option String) : Except CommandError (List ClassId) :=
  match name with
  | none => .ok model.ids
  | some wanted =>
      match model.find? wanted with
      | some id => .ok [id]
      | none => .error (.unknownClass wanted)

/-- Lists the identity fields of the project that the current directory belongs to. -/
def run (request : FieldsRequest) (tree : FileTree) (screen : Screen) : CommandResult :=
  Project.withModel tree request.paths screen fun _ loaded printed =>
    match selected loaded.model request.className with
    | .error error => .failed tree printed error
    | .ok ids => .done tree (print (ids.map (ClassListing.of loaded.model)) printed)

end FieldListing

end ValueMethods
