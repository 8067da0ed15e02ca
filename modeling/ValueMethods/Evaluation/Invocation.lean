import ValueMethods.Evaluation.Expression
import ValueMethods.ClassModel.Identity
import ValueMethods.Text.Digits

/-!
# Calling value methods on objects

A call runs the nearest generated method on the class of the object or its ancestors.  Above a
method that was written by hand nothing is looked for, since there is no body to run; where no
class has the method, the root class answers with the identity of the object.
-/

namespace ValueMethods

namespace ClassModel

/-- The nearest generated method of a kind along a lineage.  A class that has the method without a
generated body ends the search. -/
def nearestMethod (model : ClassModel) (kind : ValueMethod) :
    List ClassId → Except EvalError (Option Method)
  | [] => .ok none
  | id :: rest =>
      match model.class? id with
      | none => model.nearestMethod kind rest
      | some decl =>
          match decl.generated.find? fun method => method.kind == kind with
          | some method => .ok (some method)
          | none =>
              if decl.hasMethod kind.signature then
                .error (.opaqueMethod decl.qualifiedName kind)
              else
                model.nearestMethod kind rest

/-- The method that a call on an object of the class runs, if any class has one. -/
def resolve (model : ClassModel) (id : ClassId) (kind : ValueMethod) :
    Except EvalError (Option Method) :=
  model.nearestMethod kind (model.lineage id)

end ClassModel

/-- What the root class does: objects are equal only to themselves, the hash is the identity, and
the text is the class with the identity in hexadecimal. -/
def rootMethod (model : ClassModel) (self : Instance) (kind : ValueMethod)
    (arguments : List Value) : Value :=
  match kind with
  | .equals =>
      match arguments with
      | .object other :: _ => .bool (self.same other)
      | _ => .bool false
  | .hashCode => .int self.identity
  | .toString =>
      .text (model.qualifiedName self.owner ++ "@" ++
        Text.hexText self.identity.toUInt32.toNat)

/-- Calls a value method on an object, with at most `limit` calls inside each other. -/
def invoke (model : ClassModel) : Nat → Dispatch
  | 0 => fun _ _ _ => .error .nestedTooDeeply
  | limit + 1 => fun self kind arguments =>
      match model.resolve self.owner kind with
      | .error error => .error error
      | .ok none => .ok (rootMethod model self kind arguments)
      | .ok (some method) => method.run model (invoke model limit) self arguments

/-- Calls that a hand-made method may nest on one object before the evaluation is given up. -/
def callReserve : Nat := 100000

/-- The number of calls inside each other that is allowed for an object.  A generated method only
calls methods of objects nested in its own, so the height of the object is enough for it. -/
def Instance.callLimit (self : Instance) : Nat :=
  self.height + callReserve

namespace Instance

/-- Calls a value method on the object. -/
def invoke (model : ClassModel) (self : Instance) (kind : ValueMethod) (arguments : List Value) :
    Except EvalError Value :=
  ValueMethods.invoke model self.callLimit self kind arguments

/-- Whether the object equals a value. -/
def equals (model : ClassModel) (self : Instance) (other : Value) : Except EvalError Bool := do
  (← self.invoke model .equals [other]).expectBool

/-- The hash of the object. -/
def hashCode (model : ClassModel) (self : Instance) : Except EvalError Int32 := do
  (← self.invoke model .hashCode []).expectInt

/-- The text of the object. -/
def text (model : ClassModel) (self : Instance) : Except EvalError String := do
  (← self.invoke model .toString []).expectText

end Instance

end ValueMethods
