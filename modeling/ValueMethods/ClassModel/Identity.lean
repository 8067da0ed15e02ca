import ValueMethods.ClassModel.Ancestry

/-!
# Identity fields

The fields that make up the value of an object: the instance fields of its ancestors in the model,
from the root of the hierarchy down, and then its own, each class's fields in declaration order.
-/

namespace ValueMethods

/-- The fields that are not static, in order. -/
def instanceFields (fields : List Field) : List Field :=
  fields.filter fun field => !field.isStatic

/-- The identity fields of a class, by where they are declared. -/
structure IdentityFields where
  /-- Instance fields of the ancestors, the root's first. -/
  inherited : List Field
  /-- Instance fields of the class itself. -/
  own : List Field
  deriving DecidableEq

namespace IdentityFields

/-- All identity fields, inherited ones first. -/
def toList (fields : IdentityFields) : List Field :=
  fields.inherited ++ fields.own

/-- The names of the identity fields, in order. -/
def names (fields : IdentityFields) : List String :=
  fields.toList.map Field.name

/-- The number of identity fields. -/
def size (fields : IdentityFields) : Nat :=
  fields.inherited.length + fields.own.length

/-- Whether there is no identity field. -/
def isEmpty (fields : IdentityFields) : Bool :=
  fields.inherited.isEmpty && fields.own.isEmpty

@[simp]
theorem length_toList (fields : IdentityFields) : fields.toList.length = fields.size := by
  simp [toList, size]

end IdentityFields

namespace ClassModel

/-- All fields the ancestors of a class declare, static ones included, the root's first. -/
def ancestorFields (model : ClassModel) (id : ClassId) : List Field :=
  (model.ancestors id).flatMap model.fieldsOf

/-- The identity fields of a class. -/
def identityFields (model : ClassModel) (id : ClassId) : IdentityFields where
  inherited := instanceFields (model.ancestorFields id)
  own := instanceFields (model.fieldsOf id)

end ClassModel
end ValueMethods
