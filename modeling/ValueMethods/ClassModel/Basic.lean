import ValueMethods.Java.Code

/-!
# The class model

The classes of one generation run.  A class is handled by its position in the model; a superclass
in the model is a position too, one outside the model is only a name.  Methods a class has are kept
in one table ordered by signature, with the source of those that come with one.
-/

namespace ValueMethods

/-- Handle of a class, its position in the model. -/
abbrev ClassId := Nat

/-- A field declared by a class. -/
structure Field where
  /-- Name of the field. -/
  name : String
  /-- Text of the type. -/
  type : String
  /-- Whether the field belongs to the class and not to its instances. -/
  isStatic : Bool
  deriving DecidableEq

/-- What a class extends. -/
inductive Superclass where
  /-- A class of the same model. -/
  | inModel (id : ClassId)
  /-- A class outside the model, of which only the name is known. -/
  | external (name : String)
  deriving DecidableEq

/-! ## Method tables -/

/-- The methods a class has: their signatures in ascending order, each with the source of the
method if that is known. -/
abbrev MethodTable := List (Signature × Option String)

namespace MethodTable

/-- Whether the table has the signature. -/
def has (table : MethodTable) (signature : Signature) : Bool :=
  table.any fun entry => entry.1 == signature

/-- The source recorded for a signature. -/
def source? (table : MethodTable) (signature : Signature) : Option String :=
  (table.find? fun entry => entry.1 == signature).bind Prod.snd

/-- Enters a signature.  A source replaces what was recorded; without a source, an entry that is
there already stays as it is. -/
def declare (signature : Signature) (source : Option String) : MethodTable → MethodTable
  | [] => [(signature, source)]
  | entry :: rest =>
      if entry.1 = signature then
        (entry.1, source.or entry.2) :: rest
      else if signature.before entry.1 then
        (signature, source) :: entry :: rest
      else
        entry :: declare signature source rest

/-- The signatures in ascending order. -/
def signatures (table : MethodTable) : List Signature :=
  table.map Prod.fst

@[simp]
theorem has_nil (signature : Signature) : has [] signature = false := rfl

@[simp]
theorem has_cons (entry : Signature × Option String) (rest : MethodTable) (signature : Signature) :
    has (entry :: rest) signature = (entry.1 == signature || has rest signature) := rfl

theorem has_iff_mem_signatures (table : MethodTable) (signature : Signature) :
    table.has signature = true ↔ signature ∈ table.signatures := by
  induction table with
  | nil => simp [signatures]
  | cons entry rest ih =>
      simp only [has_cons, Bool.or_eq_true, beq_iff_eq, ih, signatures, List.map_cons,
        List.mem_cons]
      exact or_congr_left eq_comm

/-- Declaring a signature adds that signature and no other. -/
@[simp]
theorem has_declare (table : MethodTable) (added : Signature) (source : Option String)
    (signature : Signature) :
    has (declare added source table) signature = (added == signature || has table signature) := by
  induction table with
  | nil => rfl
  | cons entry rest ih =>
      simp only [declare]
      split
      · next same => simp [same]
      · split
        · rfl
        · simp only [has_cons, ih]
          cases entry.1 == signature <;> simp

end MethodTable

/-! ## Classes -/

/-- A class of the model. -/
structure ClassDecl where
  /-- Simple name. -/
  name : String
  /-- Package; none and the empty text both mean the default package. -/
  package : Option String
  /-- Whether the class is abstract. -/
  isAbstract : Bool
  /-- Fields in declaration order. -/
  fields : List Field
  /-- The superclass, if one was named. -/
  superclass : Option Superclass
  /-- Methods the class has, declared or generated. -/
  methods : MethodTable
  /-- Generated methods in the order in which they were attached. -/
  generated : List Method

/-- The name of a class with its package in front, unless that is missing or empty. -/
def qualifyName (package : Option String) (name : String) : String :=
  match package with
  | some package => if package.isEmpty then name else package ++ "." ++ name
  | none => name

namespace ClassDecl

/-- The name by which the class is keyed in a model. -/
def qualifiedName (decl : ClassDecl) : String :=
  qualifyName decl.package decl.name

/-- Whether the class has a method of that signature, declared or generated. -/
def hasMethod (decl : ClassDecl) (signature : Signature) : Bool :=
  decl.methods.has signature

/-- Enters a method the class was declared with. -/
def declareMethod (decl : ClassDecl) (signature : Signature) (source : Option String) : ClassDecl :=
  { decl with methods := MethodTable.declare signature source decl.methods }

/-- The recorded source of a method. -/
def methodSource? (decl : ClassDecl) (signature : Signature) : Option String :=
  decl.methods.source? signature

/-- Whether one of the generated methods has the signature. -/
def hasGenerated (decl : ClassDecl) (signature : Signature) : Bool :=
  decl.generated.any fun method => method.signature == signature

/-- Signatures that no generated method accounts for, in ascending order. -/
def declaredMethods (decl : ClassDecl) : List Signature :=
  decl.methods.signatures.filter fun signature => !decl.hasGenerated signature

/-- Declared methods whose source is not known, in ascending order. -/
def methodsWithoutSource (decl : ClassDecl) : List Signature :=
  decl.declaredMethods.filter fun signature => (decl.methodSource? signature).isNone

/-- Adds a generated method; from then on the class has its signature. -/
def attach (decl : ClassDecl) (method : Method) : ClassDecl :=
  { decl with
    methods := MethodTable.declare method.signature none decl.methods
    generated := decl.generated ++ [method] }

/-- The name of the superclass if it lies outside the model. -/
def externalSuperclass? (decl : ClassDecl) : Option String :=
  match decl.superclass with
  | some (.external name) => some name
  | _ => none

@[simp]
theorem hasMethod_declareMethod (decl : ClassDecl) (added : Signature) (source : Option String)
    (signature : Signature) :
    (decl.declareMethod added source).hasMethod signature =
      (added == signature || decl.hasMethod signature) := by
  simp [hasMethod, declareMethod]

@[simp]
theorem hasMethod_attach (decl : ClassDecl) (method : Method) (signature : Signature) :
    (decl.attach method).hasMethod signature =
      (method.signature == signature || decl.hasMethod signature) := by
  simp [hasMethod, attach]

end ClassDecl

/-! ## Models -/

/-- Why a model cannot be built. -/
inductive ModelError where
  /-- Two classes have the same qualified name. -/
  | duplicateClass (name : String)
  /-- A class declares a field name twice. -/
  | duplicateField (owner field : String)
  /-- The superclass links from a class would lead back to it. -/
  | inheritanceCycle (name : String)
  deriving DecidableEq

/-- The text shown for the error. -/
def ModelError.message : ModelError → String
  | .duplicateClass name => "class '" ++ name ++ "' is defined more than once"
  | .duplicateField owner field =>
      "class '" ++ owner ++ "' declares field '" ++ field ++ "' more than once"
  | .inheritanceCycle name => "inheritance cycle detected at class '" ++ name ++ "'"

/-- The classes of one generation run. -/
structure ClassModel where
  /-- The classes, in the order in which they were added. -/
  classes : List ClassDecl
  /-- The qualified name of each class at the time it was added. -/
  index : List (String × ClassId)

/-- The first name that occurs a second time in the list. -/
def firstRepeated : List String → Option String :=
  go []
where
  go (seen : List String) : List String → Option String
    | [] => none
    | name :: rest => if name ∈ seen then some name else go (name :: seen) rest

namespace ClassModel

/-- The model without classes. -/
def empty : ClassModel where
  classes := []
  index := []

/-- The number of classes. -/
def size (model : ClassModel) : Nat :=
  model.classes.length

/-- The handles of all classes, in order. -/
def ids (model : ClassModel) : List ClassId :=
  List.range model.size

/-- The class with the given handle. -/
def class? (model : ClassModel) (id : ClassId) : Option ClassDecl :=
  model.classes[id]?

/-- Changes one class and leaves the others and the index alone. -/
def modify (model : ClassModel) (id : ClassId) (change : ClassDecl → ClassDecl) : ClassModel :=
  { model with classes := model.classes.modify id change }

/-- The simple name of a class. -/
def simpleName (model : ClassModel) (id : ClassId) : String :=
  (model.class? id).elim "" ClassDecl.name

/-- The qualified name of a class. -/
def qualifiedName (model : ClassModel) (id : ClassId) : String :=
  (model.class? id).elim "" ClassDecl.qualifiedName

/-- The fields a class declares. -/
def fieldsOf (model : ClassModel) (id : ClassId) : List Field :=
  (model.class? id).elim [] ClassDecl.fields

/-- The superclass of a class if it lies in the model. -/
def parent? (model : ClassModel) (id : ClassId) : Option ClassId :=
  match (model.class? id).bind ClassDecl.superclass with
  | some (.inModel parent) => some parent
  | _ => none

/-- Adds a class and gives its handle.  Its qualified name must be new, and it must not declare a
field twice; otherwise it is refused. -/
def enter (model : ClassModel) (decl : ClassDecl) : ClassModel × Except ModelError ClassId :=
  let key := decl.qualifiedName
  if (model.index.lookup key).isSome then
    (model, .error (.duplicateClass key))
  else
    match firstRepeated (decl.fields.map Field.name) with
    | some field => (model, .error (.duplicateField key field))
    | none =>
        ({ classes := model.classes ++ [decl]
           index := model.index ++ [(key, model.size)] },
          .ok model.size)

/-- The model behind a change, unless the change is refused. -/
def accepted {α : Type} : ClassModel × Except ModelError α → Except ModelError ClassModel
  | (changed, .ok _) => .ok changed
  | (_, .error error) => .error error

/-- The model with one more class, unless that is refused. -/
def addClass (model : ClassModel) (decl : ClassDecl) : Except ModelError ClassModel :=
  accepted (model.enter decl)

/-- The class with that qualified name; failing that, the only class with that simple name. -/
def find? (model : ClassModel) (name : String) : Option ClassId :=
  match model.index.lookup name with
  | some id => some id
  | none =>
      match model.ids.filter fun id => (model.class? id).any fun decl => decl.name == name with
      | [id] => some id
      | _ => none

/-- Sets what a class extends, whatever that leads to. -/
def setSuperclass (model : ClassModel) (child : ClassId) (superclass : Option Superclass) :
    ClassModel :=
  model.modify child fun decl => { decl with superclass }

/-- Makes a class outside the model the superclass. -/
def extendExternal (model : ClassModel) (child : ClassId) (name : String) : ClassModel :=
  model.setSuperclass child (some (.external name))

@[simp]
theorem size_modify (model : ClassModel) (id : ClassId) (change : ClassDecl → ClassDecl) :
    (model.modify id change).size = model.size := by
  simp [modify, size]

end ClassModel

end ValueMethods
