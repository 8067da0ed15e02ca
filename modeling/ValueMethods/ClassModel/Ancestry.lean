import ValueMethods.ClassModel.Basic

/-!
# Ancestry

Walking the superclass links inside a model.  The walk lists a class, its superclass, and so on; it
ends at a class without a superclass in the model, and also where the links lead back to a class it
has already listed, so it ends on links of any shape.
-/

namespace ValueMethods
namespace ClassModel

/-- Walks up from a class, at most `limit` classes far, and stops before a class in `visited`. -/
def climb (model : ClassModel) : Nat → List ClassId → ClassId → List ClassId
  | 0, _, _ => []
  | limit + 1, visited, id =>
      if id ∈ visited then
        []
      else
        match model.parent? id with
        | some parent => id :: model.climb limit (id :: visited) parent
        | none => [id]

/-- The class itself, its superclass, and so on, no class twice. -/
def lineage (model : ClassModel) (id : ClassId) : List ClassId :=
  model.climb (model.size + 1) [] id

/-- The ancestors of a class in the model, the most distant first. -/
def ancestors (model : ClassModel) (id : ClassId) : List ClassId :=
  (model.lineage id).tail.reverse

/-- Makes a class of the model the superclass of another.  That is refused if the child would become
its own ancestor. -/
def link (model : ClassModel) (child parent : ClassId) : ClassModel × Except ModelError Unit :=
  if child ∈ model.lineage parent then
    (model, .error (.inheritanceCycle (model.qualifiedName child)))
  else
    (model.setSuperclass child (some (.inModel parent)), .ok ())

/-- The model with a class of the model as the superclass of another, unless that is refused. -/
def extend (model : ClassModel) (child parent : ClassId) : Except ModelError ClassModel :=
  accepted (model.link child parent)

/-- Whether the type text names the class or one of its ancestors, simply or qualified. -/
def isInstance (model : ClassModel) (id : ClassId) (type : String) : Bool :=
  (model.lineage id).any fun ancestor =>
    (model.class? ancestor).any fun decl => decl.name == type || decl.qualifiedName == type

end ClassModel
end ValueMethods
