import ValueMethods.ClassModel.Ancestry
import ValueMethods.Evaluation.Hash

/-!
# Evaluating expressions

The value of an expression, given the current object, the variables in scope and a way of calling
value methods on objects.  Evaluation follows the tree; what a call on an object does is left to
the `Dispatch` that it is given.
-/

namespace ValueMethods

/-- Calls a value method on an object. -/
abbrev Dispatch := Instance → ValueMethod → List Value → Except EvalError Value

/-- The variables in scope, the most recent first. -/
abbrev Locals := List (String × Value)

namespace Value

/-- The truth value that is expected. -/
def expectBool : Value → Except EvalError Bool
  | .bool value => .ok value
  | other => .error (.typeMismatch "boolean" other.kindText)

/-- The `int` that is expected. -/
def expectInt : Value → Except EvalError Int32
  | .int value => .ok value
  | other => .error (.typeMismatch "int" other.kindText)

/-- The string that is expected. -/
def expectText : Value → Except EvalError String
  | .text value => .ok value
  | other => .error (.typeMismatch "String" other.kindText)

end Value

namespace Dispatch

/-! ## The value methods of any value -/

/-- Equality of two values that may be null. -/
def objectsEqual (dispatch : Dispatch) (first second : Value) : Except EvalError Bool :=
  if first.sameReference second then
    .ok true
  else
    match first, second with
    | .object self, other => do (← dispatch self .equals [other]).expectBool
    | .text left, .text right => .ok (left == right)
    | _, _ => .ok false

/-- The hash of a value, zero for null. -/
def hashValue (dispatch : Dispatch) : Value → Except EvalError Int32
  | .null => .ok 0
  | .bool value => .ok (Hash.ofBool value)
  | .int value => .ok value
  | .long value => .ok (Hash.ofLong value)
  | .text value => .ok (Hash.ofText value)
  | .object self => do (← dispatch self .hashCode []).expectInt
  | .modelClass id => .ok (Int32.ofNat id)
  | .namedClass name => .ok (Hash.ofText name)

/-- The hashes of a list of values, in order. -/
def hashValues (dispatch : Dispatch) : List Value → Except EvalError (List Int32)
  | [] => .ok []
  | first :: rest => do
      let hash ← dispatch.hashValue first
      let hashes ← dispatch.hashValues rest
      .ok (hash :: hashes)

/-- The hash of a list of values, one for the empty list. -/
def hashAll (dispatch : Dispatch) (values : List Value) : Except EvalError Int32 := do
  let hashes ← dispatch.hashValues values
  .ok (Hash.fold 1 hashes)

/-- A value as text. -/
def display (model : ClassModel) (dispatch : Dispatch) : Value → Except EvalError String
  | .null => .ok "null"
  | .bool true => .ok "true"
  | .bool false => .ok "false"
  | .int value => .ok (toString value.toInt)
  | .long value => .ok (toString value.toInt)
  | .text value => .ok value
  | .object self => do (← dispatch self .toString []).expectText
  | .modelClass id => .ok ("class " ++ model.qualifiedName id)
  | .namedClass name => .ok ("class " ++ name)

/-! ## Calls -/

/-- A method called on a value that is not null.  Value methods of objects are dispatched, those
of other values have a fixed meaning, and everything has a class. -/
def call (model : ClassModel) (dispatch : Dispatch) (receiver : Value) (method : String)
    (arguments : List Value) : Except EvalError Value :=
  match receiver, method, arguments with
  | .null, _, _ => .error (.nullPointer ("call to " ++ method ++ "()"))
  | .object self, "getClass", [] => .ok (.modelClass self.owner)
  | _, "getClass", [] => .ok (.namedClass receiver.boxedClass)
  | .object self, "equals", [other] => dispatch self .equals [other]
  | .object self, "hashCode", [] => dispatch self .hashCode []
  | .object self, "toString", [] => dispatch self .toString []
  | _, "hashCode", [] => do .ok (.int (← dispatch.hashValue receiver))
  | _, "toString", [] => do .ok (.text (← dispatch.display model receiver))
  | _, "equals", [other] => do .ok (.bool (← dispatch.objectsEqual receiver other))
  | _, _, _ => .error (.unsupportedCall (receiver.kindText ++ "." ++ method))

/-- A static method of a helper class.  Only the name counts: every helper can hash a list of
values and compare two. -/
def staticCall (dispatch : Dispatch) (owner : TypeName) (method : String)
    (arguments : List Value) : Except EvalError Value :=
  match method, arguments with
  | "hash", values => do .ok (.int (← dispatch.hashAll values))
  | "equals", [first, second] => do .ok (.bool (← dispatch.objectsEqual first second))
  | _, _ => .error (.unsupportedCall (owner.qualified ++ "." ++ method))

end Dispatch

/-! ## Fields and casts -/

/-- The value of a field of an object. -/
def Instance.read (model : ClassModel) (self : Instance) (name : String) :
    Except EvalError Value :=
  match self.field? name with
  | some value => .ok value
  | none => .error (.noSuchField (model.qualifiedName self.owner) name)

namespace Value

/-- The value of a field of what a value denotes. -/
def readField (model : ClassModel) (target : Value) (name : String) : Except EvalError Value :=
  match target with
  | .object self => self.read model name
  | .null => .error (.nullPointer ("field '" ++ name ++ "'"))
  | other => .error (.typeMismatch "object" other.kindText)

/-- The value itself if it can be cast to the type.  Null is of every type, and only objects of
model classes are of any other. -/
def castTo (model : ClassModel) (type : String) : Value → Except EvalError Value
  | .null => .ok .null
  | .object self =>
      if model.isInstance self.owner type then
        .ok (.object self)
      else
        .error (.classCast (model.qualifiedName self.owner) type)
  | other => .error (.classCast other.kindText type)

end Value

/-! ## Listings -/

/-- The items of a listing, each with its label. -/
def listingItems (model : ClassModel) (dispatch : Dispatch) (self : Instance) (omitNulls : Bool) :
    List LabelledField → Except EvalError (List String)
  | [] => .ok []
  | entry :: rest => do
      match ← self.read model entry.field, omitNulls with
      | .null, true => listingItems model dispatch self omitNulls rest
      | value, _ =>
          let shown ← dispatch.display model value
          let items ← listingItems model dispatch self omitNulls rest
          .ok ((entry.label ++ "=" ++ shown) :: items)

/-- The text a listing produces, headed by the simple name of the class of the object. -/
def listingText (model : ClassModel) (dispatch : Dispatch) (self : Instance) (content : Listing) :
    Except EvalError String := do
  let items ← listingItems model dispatch self content.omitNulls content.entries
  .ok (model.simpleName self.owner ++ "\x7b" ++ Text.joinWith ", " items ++ "\x7d")

/-! ## Expressions -/

mutual

/-- The value of an expression.  Operands and arguments are evaluated from left to right, and the
right operand of a conjunction only if the left one holds. -/
def Expr.value (model : ClassModel) (dispatch : Dispatch) (self : Instance) (locals : Locals) :
    Expr → Except EvalError Value
  | .this => .ok (.object self)
  | .null => .ok .null
  | .bool value => .ok (.bool value)
  | .local name =>
      match locals.lookup name with
      | some value => .ok value
      | none => .error (.unboundLocal name)
  | .ownField name => self.read model name
  | .fieldOf target name => do
      (← target.value model dispatch self locals).readField model name
  | .ownCall method arguments => do
      let values ← Expr.values model dispatch self locals arguments
      dispatch.call model (.object self) method values
  | .callOn target method arguments => do
      let receiver ← target.value model dispatch self locals
      let values ← Expr.values model dispatch self locals arguments
      dispatch.call model receiver method values
  | .staticCall owner method arguments => do
      let values ← Expr.values model dispatch self locals arguments
      dispatch.staticCall owner method values
  | .cast type operand => do
      (← operand.value model dispatch self locals).castTo model type
  | .binary .both left right => do
      match ← (← left.value model dispatch self locals).expectBool with
      | true => do
          let holds ← (← right.value model dispatch self locals).expectBool
          .ok (.bool holds)
      | false => .ok (.bool false)
  | .binary .same left right => do
      let first ← left.value model dispatch self locals
      let second ← right.value model dispatch self locals
      .ok (.bool (first.sameReference second))
  | .binary .different left right => do
      let first ← left.value model dispatch self locals
      let second ← right.value model dispatch self locals
      .ok (.bool (!first.sameReference second))
  | .listing content => do .ok (.text (← listingText model dispatch self content))

/-- The values of a list of expressions, from left to right. -/
def Expr.values (model : ClassModel) (dispatch : Dispatch) (self : Instance) (locals : Locals) :
    List Expr → Except EvalError (List Value)
  | [] => .ok []
  | first :: rest => do
      let value ← first.value model dispatch self locals
      let values ← Expr.values model dispatch self locals rest
      .ok (value :: values)

end

/-! ## Statements -/

mutual

/-- Carries out a statement: the variables in scope afterwards, and the result if the method has
ended.  A branch shares its variables with what follows it. -/
def Stmt.run (model : ClassModel) (dispatch : Dispatch) (self : Instance) (locals : Locals) :
    Stmt → Except EvalError (Locals × Option Value)
  | .branch condition body => do
      match ← (← condition.value model dispatch self locals).expectBool with
      | true => Stmt.runAll model dispatch self locals body
      | false => .ok (locals, none)
  | .declare _ name initial => do
      let value ← initial.value model dispatch self locals
      .ok ((name, value) :: locals, none)
  | .result value => do
      let answer ← value.value model dispatch self locals
      .ok (locals, some answer)

/-- Carries out statements until one ends the method. -/
def Stmt.runAll (model : ClassModel) (dispatch : Dispatch) (self : Instance) (locals : Locals) :
    List Stmt → Except EvalError (Locals × Option Value)
  | [] => .ok (locals, none)
  | first :: rest => do
      match ← first.run model dispatch self locals with
      | (changed, none) => Stmt.runAll model dispatch self changed rest
      | (changed, some answer) => .ok (changed, some answer)

end

/-- Runs a method on an object.  Parameters without an argument stay unbound, arguments without a
parameter are not used. -/
def Method.run (model : ClassModel) (dispatch : Dispatch) (method : Method) (self : Instance)
    (arguments : List Value) : Except EvalError Value := do
  let locals := ((method.parameters.map Parameter.name).zip arguments).reverse
  match ← Stmt.runAll model dispatch self locals method.body with
  | (_, some result) => .ok result
  | (_, none) => .error .missingReturn

end ValueMethods
