import ValueMethods.ClassModel.Identity
import ValueMethods.Evaluation.Value

/-!
# Making objects

New objects get references in ascending order and identity hashes in steps of a fixed odd number,
so no reference is given twice and no identity hash repeats before all 32-bit words are used.
-/

namespace ValueMethods

/-- The names under which the fields of a new object are kept, all of them null. -/
def emptyFields (names : List String) : List (String × Value) :=
  names.map fun name => (name, .null)

/-- Gives a field a value; nothing if there is no field of that name. -/
def setField? (name : String) (value : Value) :
    List (String × Value) → Option (List (String × Value))
  | [] => none
  | entry :: rest =>
      if entry.1 = name then
        some ((name, value) :: rest)
      else
        (setField? name value rest).map (entry :: ·)

/-- Gives fields values in order, a later value for the same field replacing an earlier one; the
first name that is no field if there is one. -/
def setFields : List (String × Value) → List (String × Value) →
    Except String (List (String × Value))
  | [], fields => .ok fields
  | (name, value) :: rest, fields =>
      match setField? name value fields with
      | some changed => setFields rest changed
      | none => .error name

/-- Where the next object comes from. -/
structure Allocator where
  /-- The reference of the next object. -/
  reference : Nat
  /-- The identity hash of the next object. -/
  identity : Int32
  deriving DecidableEq

namespace Allocator

/-- The identity hash of the first object. -/
def firstIdentity : Int32 := 0x1b6d3586

/-- The step from one identity hash to the next. -/
def identityStep : Int32 := 0x9e37

/-- An allocator whose first object has the given reference. -/
def startingAt (reference : Nat) : Allocator where
  reference := reference
  identity := firstIdentity

/-- The allocator after one more object. -/
def next (allocator : Allocator) : Allocator where
  reference := allocator.reference + 1
  identity := allocator.identity + identityStep

/-- Makes an object of a class.  Its fields are the identity fields of the class; those without a
value are null. -/
def instantiate (allocator : Allocator) (model : ClassModel) (owner : ClassId)
    (values : List (String × Value)) : Except EvalError (Instance × Allocator) :=
  match setFields values (emptyFields (model.identityFields owner).names) with
  | .ok fields => .ok (.make allocator.reference owner allocator.identity fields, allocator.next)
  | .error name => .error (.noSuchField (model.qualifiedName owner) name)

end Allocator

end ValueMethods
