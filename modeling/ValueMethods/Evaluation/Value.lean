import ValueMethods.ClassModel.Basic

/-!
# Runtime values

What the generated methods compute with: the null reference, primitives, strings, objects of model
classes and classes as values.  An object is a finite tree that carries its fields with it; two
occurrences are the same object exactly if their references agree.
-/

namespace ValueMethods

mutual

/-- Runtime values. -/
inductive Value where
  /-- The null reference. -/
  | null
  /-- A truth value. -/
  | bool (value : Bool)
  /-- An `int`. -/
  | int (value : Int32)
  /-- A `long`. -/
  | long (value : Int64)
  /-- A string. -/
  | text (value : String)
  /-- An object of a class of the model. -/
  | object (content : Instance)
  /-- A class of the model as a value. -/
  | modelClass (id : ClassId)
  /-- A class outside the model as a value. -/
  | namedClass (name : String)

/-- Objects of model classes. -/
inductive Instance where
  /-- The object with the given reference, class, identity hash, height and fields. -/
  | mk (reference : Nat) (owner : ClassId) (identity : Int32) (height : Nat)
      (fields : List (String × Value))

end

namespace Instance

/-- What tells the object from all others. -/
def reference : Instance → Nat
  | mk reference _ _ _ _ => reference

/-- The class the object was made from. -/
def owner : Instance → ClassId
  | mk _ owner _ _ _ => owner

/-- The hash the object has by default. -/
def identity : Instance → Int32
  | mk _ _ identity _ _ => identity

/-- How deeply objects are nested in the object, itself included.  It is kept with the object, so
that an object found in many places is counted once. -/
def height : Instance → Nat
  | mk _ _ _ height _ => height

/-- The fields of the object with their values. -/
def fields : Instance → List (String × Value)
  | mk _ _ _ _ fields => fields

/-- The value of a field. -/
def field? (self : Instance) (name : String) : Option Value :=
  self.fields.lookup name

/-- Whether two occurrences are the same object. -/
def same (first second : Instance) : Bool :=
  first.reference == second.reference

end Instance

/-! ## Nesting -/

/-- How deeply objects are nested in a value. -/
def Value.height : Value → Nat
  | .object content => content.height
  | _ => 0

/-- The greatest height among the values of fields. -/
def Value.heightOfFields (fields : List (String × Value)) : Nat :=
  fields.foldr (fun entry highest => max entry.2.height highest) 0

/-- The object with the given reference, class, identity hash and fields.  It is higher than all
objects in its fields. -/
def Instance.make (reference : Nat) (owner : ClassId) (identity : Int32)
    (fields : List (String × Value)) : Instance :=
  .mk reference owner identity (Value.heightOfFields fields + 1) fields

/-! ## Kinds of values -/

namespace Value

/-- The kind of a value in messages. -/
def kindText : Value → String
  | .null => "null"
  | .bool _ => "boolean"
  | .int _ => "int"
  | .long _ => "long"
  | .text _ => "String"
  | .object _ => "object"
  | .modelClass _ => "Class"
  | .namedClass _ => "Class"

/-- The class of a value that is not an object of a model class. -/
def boxedClass : Value → String
  | .bool _ => "java.lang.Boolean"
  | .int _ => "java.lang.Integer"
  | .long _ => "java.lang.Long"
  | .text _ => "java.lang.String"
  | .null => "java.lang.Class"
  | .object _ => "java.lang.Class"
  | .modelClass _ => "java.lang.Class"
  | .namedClass _ => "java.lang.Class"

/-- The operator `==`: identity of references, equality of primitives.  Strings are never taken
to be the same reference. -/
def sameReference : Value → Value → Bool
  | .null, .null => true
  | .object first, .object second => first.same second
  | .modelClass first, .modelClass second => first == second
  | .namedClass first, .namedClass second => first == second
  | .bool first, .bool second => first == second
  | .int first, .int second => first == second
  | .long first, .long second => first == second
  | _, _ => false

end Value

/-! ## Errors -/

/-- Why an evaluation fails. -/
inductive EvalError where
  /-- The object has no such field. -/
  | noSuchField (owner field : String)
  /-- There is no such parameter or local variable. -/
  | unboundLocal (name : String)
  /-- The value is not of the type it is cast to. -/
  | classCast (found target : String)
  /-- A value of another kind was expected. -/
  | typeMismatch (expected found : String)
  /-- Something was asked of the null reference. -/
  | nullPointer (access : String)
  /-- There is no meaning for the call. -/
  | unsupportedCall (call : String)
  /-- The method was written by hand, so there is no body to run. -/
  | opaqueMethod (owner : String) (method : ValueMethod)
  /-- The body ended without a result. -/
  | missingReturn
  /-- Calls are nested more deeply than the evaluation allows. -/
  | nestedTooDeeply
  deriving DecidableEq

/-- The text shown for the error. -/
def EvalError.message : EvalError → String
  | .noSuchField owner field => "class '" ++ owner ++ "' has no instance field '" ++ field ++ "'"
  | .unboundLocal name => "unbound local variable '" ++ name ++ "'"
  | .classCast found target => "cannot cast " ++ found ++ " to " ++ target
  | .typeMismatch expected found => "expected " ++ expected ++ ", found " ++ found
  | .nullPointer access => "null dereference while evaluating " ++ access
  | .unsupportedCall call => "unsupported call '" ++ call ++ "'"
  | .opaqueMethod owner method =>
      method.javaName ++ " of class '" ++ owner ++ "' was not generated and cannot be evaluated"
  | .missingReturn => "method body finished without returning"
  | .nestedTooDeeply => "calls are nested too deeply"

end ValueMethods
