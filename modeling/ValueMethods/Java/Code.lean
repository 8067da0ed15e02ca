import ValueMethods.Java.Types

/-!
# Code trees

The small part of Java that value methods are written in: expressions, statements and whole
methods.  The trees are printed as source text and evaluated on objects, so they hold what both
need and nothing more.
-/

namespace ValueMethods

/-! ## Expressions -/

/-- Binary operators. -/
inductive Operator where
  /-- Both operands are the same reference or the same primitive, `==`. -/
  | same
  /-- The operands are not the same, `!=`. -/
  | different
  /-- Both operands hold; the right one is looked at only if the left one holds, `&&`. -/
  | both
  deriving DecidableEq

/-- The operator in Java. -/
def Operator.symbol : Operator → String
  | .same => "=="
  | .different => "!="
  | .both => "&&"

/-- A field together with the label it is listed under. -/
structure LabelledField where
  /-- Text in front of the value. -/
  label : String
  /-- Name of the field that is read. -/
  field : String
  deriving DecidableEq

/-- A listing of fields of the current object by a string helper class.  It is kept as data, so
nothing has to take a chain of calls apart. -/
structure Listing where
  /-- The class that provides the helper. -/
  helper : TypeName
  /-- Simple name of the class that the listing was made for. -/
  className : String
  /-- Whether fields that are null are left out. -/
  omitNulls : Bool
  /-- The listed fields, in order. -/
  entries : List LabelledField
  deriving DecidableEq

/-- Expressions. -/
inductive Expr where
  /-- The current object. -/
  | this
  /-- The null reference. -/
  | null
  /-- A truth value. -/
  | bool (value : Bool)
  /-- A parameter or a local variable. -/
  | local (name : String)
  /-- A field of the current object, by its bare name. -/
  | ownField (name : String)
  /-- A field of the object that `target` denotes. -/
  | fieldOf (target : Expr) (name : String)
  /-- A method called on the current object, by its bare name. -/
  | ownCall (method : String) (arguments : List Expr)
  /-- A method called on what `target` denotes. -/
  | callOn (target : Expr) (method : String) (arguments : List Expr)
  /-- A static method of a class. -/
  | staticCall (owner : TypeName) (method : String) (arguments : List Expr)
  /-- A cast to a type. -/
  | cast (type : String) (operand : Expr)
  /-- A binary operator applied to its operands. -/
  | binary (operator : Operator) (left right : Expr)
  /-- A listing of fields of the current object. -/
  | listing (content : Listing)

/-! ## Statements and methods -/

/-- Statements. -/
inductive Stmt where
  /-- `body` if `condition` holds; there is no other branch. -/
  | branch (condition : Expr) (body : List Stmt)
  /-- A local variable that is never assigned again. -/
  | declare (type name : String) (initial : Expr)
  /-- The value of the method. -/
  | result (value : Expr)

/-- A parameter of a method. -/
structure Parameter where
  /-- Text of the type. -/
  type : String
  /-- Name of the parameter. -/
  name : String
  deriving DecidableEq

/-- A public method given by its code tree. -/
structure Method where
  /-- Which of the value methods this is. -/
  kind : ValueMethod
  /-- Text of the return type. -/
  returnType : String
  /-- The parameters, in order. -/
  parameters : List Parameter
  /-- Names of the annotations, in order. -/
  annotations : List String
  /-- The statements, in order. -/
  body : List Stmt

namespace Method

/-- The name of the method in Java. -/
def name (method : Method) : String :=
  method.kind.javaName

/-- The signature under which the class owns the method. -/
def signature (method : Method) : Signature :=
  Signature.of method.name (method.parameters.map Parameter.type)

/-- Whether the method is marked as overriding an inherited one. -/
def isOverride (method : Method) : Bool :=
  method.annotations.contains "Override"

end Method

/-! ## Types a tree refers to -/

mutual

/-- The classes whose static methods or helpers an expression uses, from left to right and
repeats kept. -/
def Expr.types : Expr → List TypeName
  | .this => []
  | .null => []
  | .bool _ => []
  | .local _ => []
  | .ownField _ => []
  | .fieldOf target _ => target.types
  | .ownCall _ arguments => Expr.typesOfAll arguments
  | .callOn target _ arguments => target.types ++ Expr.typesOfAll arguments
  | .staticCall owner _ arguments => owner :: Expr.typesOfAll arguments
  | .cast _ operand => operand.types
  | .binary _ left right => left.types ++ right.types
  | .listing content => [content.helper]

/-- The classes used by the expressions of a list, in order. -/
def Expr.typesOfAll : List Expr → List TypeName
  | [] => []
  | first :: rest => first.types ++ Expr.typesOfAll rest

end

mutual

/-- The classes used by a statement, in order. -/
def Stmt.types : Stmt → List TypeName
  | .branch condition body => condition.types ++ Stmt.typesOfAll body
  | .declare _ _ initial => initial.types
  | .result value => value.types

/-- The classes used by the statements of a list, in order. -/
def Stmt.typesOfAll : List Stmt → List TypeName
  | [] => []
  | first :: rest => first.types ++ Stmt.typesOfAll rest

end

/-- The classes used by the body of a method, in order. -/
def Method.types (method : Method) : List TypeName :=
  Stmt.typesOfAll method.body

end ValueMethods
