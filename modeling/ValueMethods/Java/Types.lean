import ValueMethods.Text.Split

/-!
# Type names and method signatures

Names of Java types and the signatures by which methods are told apart.  A signature keeps of each
parameter type only its simple name, so `equals(java.lang.Object)` and `equals(Object)` are one
signature.
-/

namespace ValueMethods

/-! ## Type names -/

/-- A Java type name, with the package it is qualified by if there is one. -/
structure TypeName where
  /-- Everything before the last dot of the qualified name. -/
  package : Option String
  /-- The simple name. -/
  name : String
  deriving DecidableEq

namespace TypeName

/-- Reads `a.b.C` as the type `C` of package `a.b`. -/
def parse (qualified : String) : TypeName where
  package := (Text.beforeLast? '.' qualified.toList).map String.ofList
  name := String.ofList (Text.afterLast '.' qualified.toList)

/-- The name with its package in front. -/
def qualified (type : TypeName) : String :=
  match type.package with
  | some package => package ++ "." ++ type.name
  | none => type.name

/-- Types of `java.lang` and of the default package are visible without an import. -/
def needsImport (type : TypeName) : Bool :=
  match type.package with
  | some package => package != "java.lang"
  | none => false

end TypeName

/-- A type text without surrounding blanks, type arguments and package. -/
def simpleTypeName (type : String) : String :=
  String.ofList (Text.afterLast '.' (Text.beforeFirst '<' (Text.trim type.toList)))

/-! ## Signatures -/

/-- The name of a method with the simple names of its parameter types. -/
structure Signature where
  /-- Name of the method. -/
  name : String
  /-- Simple names of the parameter types, in order. -/
  parameters : List String
  deriving DecidableEq

namespace Signature

/-- The signature of a method declared with the given parameter types. -/
def of (name : String) (parameterTypes : List String) : Signature where
  name := name
  parameters := parameterTypes.map simpleTypeName

/-- The signature as it is printed, `name(A, B)`. -/
def text (signature : Signature) : String :=
  signature.name ++ "(" ++ Text.joinWith ", " signature.parameters ++ ")"

/-- Signatures are ordered by name, then by parameter list. -/
def before (first second : Signature) : Bool :=
  decide (first.name < second.name) ||
    (first.name == second.name && decide (first.parameters < second.parameters))

end Signature

/-! ## The value methods -/

/-- The three methods of the root class that give an object value semantics. -/
inductive ValueMethod where
  /-- `toString()`. -/
  | toString
  /-- `hashCode()`. -/
  | hashCode
  /-- `equals(Object)`. -/
  | equals
  deriving DecidableEq

namespace ValueMethod

/-- The value methods in the order in which they are decided and printed. -/
def all : List ValueMethod :=
  [.toString, .hashCode, .equals]

/-- The name of the method in Java. -/
def javaName : ValueMethod → String
  | .toString => "toString"
  | .hashCode => "hashCode"
  | .equals => "equals"

/-- The signature a class overrides when it defines the method. -/
def signature : ValueMethod → Signature
  | .toString => ⟨"toString", []⟩
  | .hashCode => ⟨"hashCode", []⟩
  | .equals => ⟨"equals", ["Object"]⟩

end ValueMethod

end ValueMethods
