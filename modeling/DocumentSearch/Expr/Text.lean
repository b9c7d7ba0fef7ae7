import DocumentSearch.Expr.Basic
import DocumentSearch.Value.Text

/-!
# The text of an expression

Messages about an expression show the whole tree.
-/

namespace DocumentSearch

/-- The text of a parameter. -/
def Parameter.inspect (p : Parameter) : String :=
  Text.recordText "Parameter" [("name", Text.quoted p.name), ("type_name", Text.quoted p.typeName)]

/-- The text of a member's owner. -/
def Owner.inspect : Owner → String
  | named typeName => Text.callText "Named" [Text.quoted typeName]
  | reserved => "Reserved"
  | nullable => "Nullable"
  | string => "String"

/-- The text of a member. -/
def Member.inspect (m : Member) : String :=
  Text.recordText "Member" [("name", Text.quoted m.name), ("owner", m.owner.inspect), ("ty", m.type.inspect)]

/-- The text of a method's owner. -/
def MethodOwner.inspect : MethodOwner → String
  | string => "String"
  | object => "Object"
  | math => "Math"
  | sequence => "Sequence"
  | query => "Query"
  | search => "Search"
  | named typeName => Text.callText "Named" [Text.quoted typeName]

/-- The text of a method. -/
def Method.inspect (m : Method) : String :=
  Text.recordText "Method" [("name", Text.quoted m.name), ("owner", m.owner.inspect)]

/-- A method by owner and name. -/
def Method.path (m : Method) : String := m.owner.inspect ++ "::" ++ m.name

/-- The name of an operator. -/
def UnaryOperator.name : UnaryOperator → String
  | not => "Not"
  | negate => "Negate"

/-- The name of a comparison. -/
def Comparison.name : Comparison → String
  | less => "LessThan"
  | lessOrEqual => "LessThanOrEqual"
  | greater => "GreaterThan"
  | greaterOrEqual => "GreaterThanOrEqual"

/-- The name of an operation. -/
def Arithmetic.name : Arithmetic → String
  | add => "Add"
  | subtract => "Subtract"
  | multiply => "Multiply"
  | divide => "Divide"
  | modulo => "Modulo"

/-- The name of an operator. -/
def BinaryOperator.name : BinaryOperator → String
  | and => "AndAlso"
  | or => "OrElse"
  | equal => "Equal"
  | notEqual => "NotEqual"
  | compare comparison => comparison.name
  | arithmetic operation => operation.name

namespace Expr

mutual

/-- The text of an expression. -/
def inspect : Expr → String
  | parameter p => Text.callText "Parameter" [p.inspect]
  | constant v => Text.callText "Constant" [v.inspect]
  | member target m =>
    Text.recordText "Member" [("target", Text.optionText (some (inspect target))), ("member", m.inspect)]
  | staticMember m => Text.recordText "Member" [("target", Text.optionText none), ("member", m.inspect)]
  | call target m args =>
    Text.recordText "Call" [("target", Text.optionText (some (inspect target))), ("method", m.inspect),
      ("args", Text.listText (inspectAll args))]
  | staticCall m args =>
    Text.recordText "Call" [("target", Text.optionText none), ("method", m.inspect),
      ("args", Text.listText (inspectAll args))]
  | lambda parameters body =>
    Text.recordText "Lambda" [("parameters", Text.listText (parameters.map Parameter.inspect)),
      ("body", inspect body)]
  | unary operator operand =>
    Text.recordText "Unary" [("operator", operator.name), ("operand", inspect operand)]
  | convert operand type => Text.recordText "Convert" [("operand", inspect operand), ("ty", type.inspect)]
  | binary left operator right =>
    Text.recordText "Binary" [("left", inspect left), ("operator", operator.name), ("right", inspect right)]
  | record typeName members =>
    Text.recordText "New" [("type_name", Text.quoted typeName), ("members", Text.listText (inspectMembers members))]
  | lookup key type => Text.recordText "Lookup" [("key", Text.quoted key), ("ty", type.inspect)]

/-- The text of each expression. -/
def inspectAll : List Expr → List String
  | [] => []
  | e :: rest => inspect e :: inspectAll rest

/-- The name and text of each member. -/
def inspectMembers : List (String × Expr) → List String
  | [] => []
  | (name, e) :: rest => ("(" ++ Text.quoted name ++ ", " ++ inspect e ++ ")") :: inspectMembers rest

end

end Expr

end DocumentSearch
