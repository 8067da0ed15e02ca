import ValueMethods.Data.Tree
import ValueMethods.Java.Code

/-!
# Code trees as data

Code trees in a data format.  A node without parts is its name, any other node is a map from its
name to its parts.
-/

namespace ValueMethods

/-- A node with its name. -/
def DataTree.node (name : String) (content : DataTree) : DataTree :=
  .map [(name, content)]

/-- A type name as data. -/
def TypeName.tree (type : TypeName) : DataTree :=
  .map [("package", .ofText? type.package), ("name", .text type.name)]

/-- The name of an operator in data. -/
def Operator.key : Operator → String
  | .same => "RefEq"
  | .different => "RefNe"
  | .both => "And"

/-- A listing as data. -/
def Listing.tree (content : Listing) : DataTree :=
  .map
    [("helper", content.helper.tree), ("class_name", .text content.className),
      ("omit_nulls", .bool content.omitNulls),
      ("entries", .list (content.entries.map fun entry =>
        .map [("label", .text entry.label), ("field", .text entry.field)]))]

/-- An access to a field as data. -/
def fieldNode (target : DataTree) (name : String) : DataTree :=
  .node "Field" (.map [("target", target), ("name", .text name)])

/-- A call as data. -/
def callNode (target : DataTree) (method : String) (arguments : List DataTree) : DataTree :=
  .node "Call" (.map [("target", target), ("method", .text method), ("args", .list arguments)])

mutual

/-- An expression as data. -/
def Expr.tree : Expr → DataTree
  | .this => .text "This"
  | .null => .text "Null"
  | .bool value => .node "Bool" (.bool value)
  | .local name => .node "Local" (.text name)
  | .ownField name => fieldNode .null name
  | .fieldOf target name => fieldNode target.tree name
  | .ownCall method arguments => callNode .null method (Expr.trees arguments)
  | .callOn target method arguments => callNode target.tree method (Expr.trees arguments)
  | .staticCall owner method arguments =>
      .node "StaticCall"
        (.map [("class", owner.tree), ("method", .text method),
          ("args", .list (Expr.trees arguments))])
  | .cast type operand =>
      .node "Cast" (.map [("ty", .text type), ("expr", operand.tree)])
  | .binary operator left right =>
      .node "Binary"
        (.map [("op", .text operator.key), ("lhs", left.tree), ("rhs", right.tree)])
  | .listing content => .node "ToStringHelper" content.tree

/-- The expressions of a list as data. -/
def Expr.trees : List Expr → List DataTree
  | [] => []
  | first :: rest => first.tree :: Expr.trees rest

end

mutual

/-- A statement as data. -/
def Stmt.tree : Stmt → DataTree
  | .branch condition body =>
      .node "If" (.map [("cond", condition.tree), ("then", .list (Stmt.trees body))])
  | .declare type name initial =>
      .node "Final" (.map [("ty", .text type), ("name", .text name), ("init", initial.tree)])
  | .result value => .node "Return" value.tree

/-- The statements of a list as data. -/
def Stmt.trees : List Stmt → List DataTree
  | [] => []
  | first :: rest => first.tree :: Stmt.trees rest

end

/-- A method as data. -/
def Method.tree (method : Method) : DataTree :=
  .map
    [("kind", .text method.kind.javaName), ("return_type", .text method.returnType),
      ("params", .list (method.parameters.map fun parameter =>
        .map [("ty", .text parameter.type), ("name", .text parameter.name)])),
      ("annotations", .ofTexts method.annotations),
      ("body", .list (Stmt.trees method.body))]

end ValueMethods
