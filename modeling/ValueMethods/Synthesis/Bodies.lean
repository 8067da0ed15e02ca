import ValueMethods.ClassModel.Identity
import ValueMethods.Synthesis.Options

/-!
# Bodies of the generated methods

The code trees of the three value methods for a class with given identity fields.  All three read
the same list of field names in the same order, so `hashCode` and `equals` cannot drift apart.
`hashCode` and `equals` need at least one identity field; `toString` does not.
-/

namespace ValueMethods
namespace Synthesis

/-- The annotation on every generated method. -/
def overrideMark : String := "Override"

/-- Parameter of the generated `equals`. -/
def otherName : String := "other"

/-- Local variable of the generated `equals`: the other object with its type. -/
def castName : String := "o"

/-! ## The text of an object -/

/-- The listing of all identity fields, each labelled with its own name. -/
def fieldListing (helper : TypeName) (className : String) (names : List String) : Listing where
  helper := helper
  className := className
  omitNulls := true
  entries := names.map fun name => ⟨name, name⟩

/-- `toString()`: the simple name of the class and the identity fields that are not null. -/
def toStringMethod (helpers : Helpers) (className : String) (names : List String) : Method where
  kind := .toString
  returnType := "String"
  parameters := []
  annotations := [overrideMark]
  body := [.result (.listing (fieldListing helpers.toStringType className names))]

/-! ## The hash of an object -/

/-- `hashCode()`: the combined hash of the identity fields, if there are any. -/
def hashCodeMethod? (helpers : Helpers) (names : List String) : Option Method :=
  match names with
  | [] => none
  | _ :: _ =>
      some
        { kind := .hashCode
          returnType := "int"
          parameters := []
          annotations := [overrideMark]
          body := [.result (.staticCall helpers.objectsType "hash" (names.map .ownField))] }

/-! ## Equality of objects -/

/-- `Objects.equals(this.f, o.f)` for one field. -/
def fieldComparison (objects : TypeName) (name : String) : Expr :=
  .staticCall objects "equals" [.fieldOf .this name, .fieldOf (.local castName) name]

/-- The comparisons of all fields, joined from the left; nothing if there is no field. -/
def fieldComparisons? (objects : TypeName) : List String → Option Expr
  | [] => none
  | first :: rest =>
      some <| rest.foldl (fun joined name => .binary .both joined (fieldComparison objects name))
        (fieldComparison objects first)

/-- A branch that ends the method with a truth value. -/
def answerIf (condition : Expr) (answer : Bool) : Stmt :=
  .branch condition [.result (.bool answer)]

/-- `equals(Object)`: true for the same object, false for null and for an object of another
class, and otherwise the comparison of the identity fields, if there are any. -/
def equalsMethod? (helpers : Helpers) (className : String) (names : List String) : Option Method :=
  (fieldComparisons? helpers.objectsType names).map fun comparison =>
    { kind := .equals
      returnType := "boolean"
      parameters := [⟨"Object", otherName⟩]
      annotations := [overrideMark]
      body :=
        [answerIf (.binary .same .this (.local otherName)) true,
          answerIf (.binary .same (.local otherName) .null) false,
          answerIf
            (.binary .different (.ownCall "getClass" []) (.callOn (.local otherName) "getClass" []))
            false,
          .declare className castName (.cast className (.local otherName)),
          .result comparison] }

/-- The body of one value method, or nothing if it needs a field and there is none. -/
def method? (helpers : Helpers) (className : String) (names : List String) :
    ValueMethod → Option Method
  | .toString => some (toStringMethod helpers className names)
  | .hashCode => hashCodeMethod? helpers names
  | .equals => equalsMethod? helpers className names

/-- A generated method is of the kind that was asked for. -/
theorem kind_of_method? {helpers : Helpers} {className : String} {names : List String}
    {kind : ValueMethod} {method : Method}
    (built : method? helpers className names kind = some method) : method.kind = kind := by
  cases kind with
  | toString =>
      simp only [method?, Option.some.injEq] at built
      simp [← built, toStringMethod]
  | hashCode =>
      cases names with
      | nil => simp [method?, hashCodeMethod?] at built
      | cons first rest =>
          simp only [method?, hashCodeMethod?, Option.some.injEq] at built
          simp [← built]
  | equals =>
      simp only [method?, equalsMethod?, Option.map_eq_some_iff] at built
      obtain ⟨comparison, _, same⟩ := built
      simp [← same]

end Synthesis
end ValueMethods
