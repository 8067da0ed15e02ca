import ValueMethods.Data.Decoding
import ValueMethods.Data.JsonReader
import ValueMethods.Data.TomlReader
import ValueMethods.Documents.Basic

/-!
# Reading model documents

From a data tree to a document.  What a record leaves out has its usual value, and only names are
required.
-/

namespace ValueMethods

namespace Decode

/-! ## Fields of classes -/

/-- A field under construction. -/
structure FieldDraft where
  /-- Name of the field. -/
  name : Option String := none
  /-- Text of the type. -/
  type : Option String := none
  /-- Whether the field is static. -/
  isStatic : Option Bool := none

/-- Takes in one entry of a field. -/
def FieldDraft.take (draft : FieldDraft) (key : String) (value : DataTree) :
    Except DataFault FieldDraft :=
  match key with
  | "name" => do .ok { draft with name := ← assign key draft.name text value }
  | "type" => do .ok { draft with type := ← assign key draft.type text value }
  | "static" => do .ok { draft with isStatic := ← assign key draft.isStatic flag value }
  | _ => do
      skip value
      .ok draft

/-- The field of a draft that has a name. -/
def FieldDraft.entry (draft : FieldDraft) (name : String) : FieldEntry where
  name := name
  type := draft.type.getD FieldEntry.usualType
  isStatic := draft.isStatic.getD false

/-- The name of a record of fields in messages. -/
def fieldRecord : String := "struct FieldSchema"

/-- A field. -/
def field (lenient : Bool) : DataTree → Except DataFault FieldEntry
  | .map entries => do
      let draft ← foldEntries FieldDraft.take {} entries
      match draft.name with
      | some name => .ok (draft.entry name)
      | none => .error (.missingField "name")
  | .list items => do
      let (name, rest) ← next text items
      match name with
      | none => .error (.tooShort (fieldRecord ++ " with 3 elements"))
      | some name => do
          let (type, rest) ← next text rest
          let (isStatic, rest) ← next flag rest
          finish lenient rest
          .ok (FieldDraft.entry { type, isStatic } name)
  | tree => .error (mismatch fieldRecord tree)

/-! ## Methods of classes -/

/-- A method under construction. -/
structure MethodDraft where
  /-- Name of the method. -/
  name : Option String := none
  /-- Texts of the parameter types. -/
  parameters : Option (List String) := none
  /-- Source of the method. -/
  source : Option (Option String) := none

/-- Takes in one entry of a method. -/
def MethodDraft.take (draft : MethodDraft) (key : String) (value : DataTree) :
    Except DataFault MethodDraft :=
  match key with
  | "name" => do .ok { draft with name := ← assign key draft.name text value }
  | "params" => do .ok { draft with parameters := ← assign key draft.parameters (list text) value }
  | "source" => do .ok { draft with source := ← assign key draft.source optionalText value }
  | _ => do
      skip value
      .ok draft

/-- The method of a draft that has a name. -/
def MethodDraft.entry (draft : MethodDraft) (name : String) : MethodEntry where
  name := name
  parameters := draft.parameters.getD []
  source := draft.source.getD none

/-- The name of a record of methods in messages. -/
def methodRecord : String := "struct MethodSchema"

/-- A method. -/
def method (lenient : Bool) : DataTree → Except DataFault MethodEntry
  | .map entries => do
      let draft ← foldEntries MethodDraft.take {} entries
      match draft.name with
      | some name => .ok (draft.entry name)
      | none => .error (.missingField "name")
  | .list items => do
      let (name, rest) ← next text items
      match name with
      | none => .error (.tooShort (methodRecord ++ " with 3 elements"))
      | some name => do
          let (parameters, rest) ← next (list text) rest
          let (source, rest) ← next optionalText rest
          finish lenient rest
          .ok (MethodDraft.entry { parameters, source } name)
  | tree => .error (mismatch methodRecord tree)

/-! ## Classes -/

/-- A class under construction. -/
structure ClassDraft where
  /-- Simple name. -/
  name : Option String := none
  /-- Package. -/
  package : Option (Option String) := none
  /-- Name of the superclass. -/
  superclass : Option (Option String) := none
  /-- Whether the class is abstract. -/
  isAbstract : Option Bool := none
  /-- The fields. -/
  fields : Option (List FieldEntry) := none
  /-- The methods. -/
  methods : Option (List MethodEntry) := none

/-- Takes in one entry of a class. -/
def ClassDraft.take (lenient : Bool) (draft : ClassDraft) (key : String) (value : DataTree) :
    Except DataFault ClassDraft :=
  match key with
  | "name" => do .ok { draft with name := ← assign key draft.name text value }
  | "package" => do .ok { draft with package := ← assign key draft.package optionalText value }
  | "extends" => do
      .ok { draft with superclass := ← assign key draft.superclass optionalText value }
  | "abstract" => do .ok { draft with isAbstract := ← assign key draft.isAbstract flag value }
  | "fields" => do
      .ok { draft with fields := ← assign key draft.fields (list (field lenient)) value }
  | "methods" => do
      .ok { draft with methods := ← assign key draft.methods (list (method lenient)) value }
  | _ => do
      skip value
      .ok draft

/-- The class of a draft that has a name. -/
def ClassDraft.entry (draft : ClassDraft) (name : String) : ClassEntry where
  name := name
  package := draft.package.getD none
  superclass := draft.superclass.getD none
  isAbstract := draft.isAbstract.getD false
  fields := draft.fields.getD []
  methods := draft.methods.getD []

/-- The name of a record of classes in messages. -/
def classRecord : String := "struct ClassSchema"

/-- A class. -/
def classEntry (lenient : Bool) : DataTree → Except DataFault ClassEntry
  | .map entries => do
      let draft ← foldEntries (ClassDraft.take lenient) {} entries
      match draft.name with
      | some name => .ok (draft.entry name)
      | none => .error (.missingField "name")
  | .list items => do
      let (name, rest) ← next text items
      match name with
      | none => .error (.tooShort (classRecord ++ " with 6 elements"))
      | some name => do
          let (package, rest) ← next optionalText rest
          let (superclass, rest) ← next optionalText rest
          let (isAbstract, rest) ← next flag rest
          let (fields, rest) ← next (list (field lenient)) rest
          let (methods, rest) ← next (list (method lenient)) rest
          finish lenient rest
          .ok (ClassDraft.entry { package, superclass, isAbstract, fields, methods } name)
  | tree => .error (mismatch classRecord tree)

/-! ## Documents -/

/-- A document under construction. -/
structure DocumentDraft where
  /-- Package of the classes that name none. -/
  package : Option (Option String) := none
  /-- The classes. -/
  classes : Option (List ClassEntry) := none

/-- Takes in one entry of a document. -/
def DocumentDraft.take (lenient : Bool) (draft : DocumentDraft) (key : String)
    (value : DataTree) : Except DataFault DocumentDraft :=
  match key with
  | "package" => do .ok { draft with package := ← assign key draft.package optionalText value }
  | "classes" => do
      .ok { draft with classes := ← assign key draft.classes (list (classEntry lenient)) value }
  | _ => do
      skip value
      .ok draft

/-- The document of a draft. -/
def DocumentDraft.document (draft : DocumentDraft) : Document where
  package := draft.package.getD none
  classes := draft.classes.getD []

/-- The name of the record of a document in messages. -/
def documentRecord : String := "struct ModelSchema"

/-- A document. -/
def document (lenient : Bool) : DataTree → Except DataFault Document
  | .map entries => do
      let draft ← foldEntries (DocumentDraft.take lenient) {} entries
      .ok draft.document
  | .list items => do
      let (package, rest) ← next optionalText items
      let (classes, rest) ← next (list (classEntry lenient)) rest
      finish lenient rest
      .ok (DocumentDraft.document { package, classes })
  | tree => .error (mismatch documentRecord tree)

end Decode

/-! ## Formats -/

/-- The formats of model documents. -/
inductive DocumentFormat where
  /-- TOML. -/
  | toml
  /-- JSON. -/
  | json
  deriving DecidableEq

namespace DocumentFormat

/-- The name of the format. -/
def name : DocumentFormat → String
  | .toml => "TOML"
  | .json => "JSON"

/-- The format of a file with the given extension. -/
def ofExtension? (extension : String) : Option DocumentFormat :=
  if extension = "toml" then some .toml
  else if extension = "json" then some .json
  else none

end DocumentFormat

/-- Reads a document from text.  JSON is taken apart while it is read, so a fault of the content
that comes before a fault of the form is the one reported; TOML must be well formed first. -/
def Document.read (format : DocumentFormat) (text : String) : Except DataFault Document :=
  match format with
  | .toml =>
      match Toml.read? text with
      | some tree => Decode.document true tree
      | none => .error .malformed
  | .json =>
      let parsed := Json.read text
      match Decode.document false parsed.tree with
      | .ok document => if parsed.ended then .ok document else .error .malformed
      | .error fault => .error fault

end ValueMethods
