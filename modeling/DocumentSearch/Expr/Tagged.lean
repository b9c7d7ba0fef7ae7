import DocumentSearch.Expr.Text
import DocumentSearch.Value.Tagged

/-!
# Tagged expressions

`Expr.toTagged` writes an expression tree as a document and `Expr.ofTagged?` reads it.
-/

namespace DocumentSearch

/-! ### The parts of expressions -/

/-- The tagged form of a parameter. -/
def Parameter.toTagged (p : Parameter) : Json :=
  .object [("name", .string p.name), ("type_name", .string p.typeName)]

/-- The parameter with this tagged form. -/
def Parameter.ofTagged? (j : Json) : Option Parameter := do
  return ⟨← (← j.field? 2 0 "name").val.string?, ← (← j.field? 2 1 "type_name").val.string?⟩

/-- The tagged form of a member's owner. -/
def Owner.toTagged : Owner → Json
  | named typeName => .tagged "Named" (.string typeName)
  | reserved => .string "Reserved"
  | nullable => .string "Nullable"
  | string => .string "String"

/-- The owner with this tagged form. -/
def Owner.ofTagged? (j : Json) : Option Owner :=
  match j with
  | .object [("Named", .string typeName)] => some (named typeName)
  | j =>
    match j.unit? with
    | some "Reserved" => some reserved
    | some "Nullable" => some nullable
    | some "String" => some string
    | _ => none

/-- The tagged form of a member. -/
def Member.toTagged (m : Member) : Json :=
  .object [("name", .string m.name), ("owner", m.owner.toTagged), ("ty", m.type.toTagged)]

/-- The member with this tagged form. -/
def Member.ofTagged? (j : Json) : Option Member := do
  let name ← (← j.field? 3 0 "name").val.string?
  let owner ← Owner.ofTagged? (← j.field? 3 1 "owner").val
  return ⟨name, owner, ← ValueType.ofTagged? (← j.field? 3 2 "ty").val⟩

/-- The tagged form of a method's owner. -/
def MethodOwner.toTagged : MethodOwner → Json
  | named typeName => .tagged "Named" (.string typeName)
  | owner => .string owner.inspect

/-- The owner with this tagged form. -/
def MethodOwner.ofTagged? (j : Json) : Option MethodOwner :=
  match j with
  | .object [("Named", .string typeName)] => some (named typeName)
  | j =>
    match j.unit? with
    | some "String" => some string
    | some "Object" => some object
    | some "Math" => some math
    | some "Sequence" => some sequence
    | some "Query" => some query
    | some "Search" => some search
    | _ => none

/-- The tagged form of a method. -/
def Method.toTagged (m : Method) : Json :=
  .object [("name", .string m.name), ("owner", m.owner.toTagged)]

/-- The method with this tagged form. -/
def Method.ofTagged? (j : Json) : Option Method := do
  let name ← (← j.field? 2 0 "name").val.string?
  return ⟨name, ← MethodOwner.ofTagged? (← j.field? 2 1 "owner").val⟩

/-- The operator with this name. -/
def UnaryOperator.ofTagged? (j : Json) : Option UnaryOperator :=
  match j.unit? with
  | some "Not" => some not
  | some "Negate" => some negate
  | _ => none

/-- All operators with two operands. -/
def BinaryOperator.all : List BinaryOperator :=
  [and, or, equal, notEqual, compare .less, compare .lessOrEqual, compare .greater, compare .greaterOrEqual,
   arithmetic .add, arithmetic .subtract, arithmetic .multiply, arithmetic .divide, arithmetic .modulo]

/-- The operator with this name. -/
def BinaryOperator.ofTagged? (j : Json) : Option BinaryOperator := do
  let name ← j.unit?
  all.find? fun operator => operator.name == name

/-! ### Expressions -/

namespace Expr

private def node (tag : String) (fields : List (String × Json)) : Json := .tagged tag (.object fields)

mutual

/-- The tagged form of an expression with its constants written by `write`. -/
def toTaggedWith (write : Value → Json) : Expr → Json
  | parameter p => .tagged "Parameter" p.toTagged
  | constant v => .tagged "Constant" (write v)
  | member target m => node "Member" [("target", toTaggedWith write target), ("member", m.toTagged)]
  | staticMember m => node "Member" [("target", .null), ("member", m.toTagged)]
  | call target m args =>
    node "Call" [("target", toTaggedWith write target), ("method", m.toTagged),
      ("args", .array (toTaggedAll write args))]
  | staticCall m args =>
    node "Call" [("target", .null), ("method", m.toTagged), ("args", .array (toTaggedAll write args))]
  | lambda parameters body =>
    node "Lambda" [("parameters", .array (parameters.map Parameter.toTagged)), ("body", toTaggedWith write body)]
  | unary operator operand =>
    node "Unary" [("operator", .string operator.name), ("operand", toTaggedWith write operand)]
  | convert operand type => node "Convert" [("operand", toTaggedWith write operand), ("ty", type.toTagged)]
  | binary left operator right =>
    node "Binary" [("left", toTaggedWith write left), ("operator", .string operator.name),
      ("right", toTaggedWith write right)]
  | record typeName members =>
    node "New" [("type_name", .string typeName), ("members", .array (toTaggedMembers write members))]
  | lookup key type => node "Lookup" [("key", .string key), ("ty", type.toTagged)]

/-- `toTaggedWith` for each expression. -/
def toTaggedAll (write : Value → Json) : List Expr → List Json
  | [] => []
  | e :: rest => toTaggedWith write e :: toTaggedAll write rest

/-- `toTaggedWith` for each named expression, paired with its name. -/
def toTaggedMembers (write : Value → Json) : List (String × Expr) → List Json
  | [] => []
  | (name, e) :: rest => .array [.string name, toTaggedWith write e] :: toTaggedMembers write rest

end

/-- The tagged form of an expression. -/
def toTagged (e : Expr) : Json := e.toTaggedWith Value.toTagged

mutual

/-- The expression with this tagged form. -/
def ofTagged? (j : Json) : Option Expr :=
  match j.variant? with
  | some (tag, some ⟨content, _smaller⟩) =>
    match tag with
    | "Parameter" => (Parameter.ofTagged? content).map parameter
    | "Constant" => (Value.ofTagged? content).map constant
    | "Member" => do
      let target ← optional? content (content.field? 2 0 "target")
      let m ← Member.ofTagged? (← content.field? 2 1 "member").val
      return match target with
        | some target => member target m
        | none => staticMember m
    | "Call" => do
      let target ← optional? content (content.field? 3 0 "target")
      let m ← Method.ofTagged? (← content.field? 3 1 "method").val
      let args ← ofTaggedList? content (← content.field? 3 2 "args")
      return match target with
        | some target => call target m args
        | none => staticCall m args
    | "Lambda" => do
      let parameters ← (← (← content.field? 2 0 "parameters").val.items?).mapM Parameter.ofTagged?
      return lambda parameters (← required? content (← content.field? 2 1 "body"))
    | "Unary" => do
      let operator ← UnaryOperator.ofTagged? (← content.field? 2 0 "operator").val
      return unary operator (← required? content (← content.field? 2 1 "operand"))
    | "Convert" => do
      let operand ← required? content (← content.field? 2 0 "operand")
      return convert operand (← ValueType.ofTagged? (← content.field? 2 1 "ty").val)
    | "Binary" => do
      let left ← required? content (← content.field? 3 0 "left")
      let operator ← BinaryOperator.ofTagged? (← content.field? 3 1 "operator").val
      return binary left operator (← required? content (← content.field? 3 2 "right"))
    | "New" => do
      let typeName ← (← content.field? 2 0 "type_name").val.string?
      return record typeName (← ofTaggedMembers? content (← content.field? 2 1 "members"))
    | "Lookup" => do
      let key ← (← content.field? 2 0 "key").val.string?
      return lookup key (← ValueType.ofTagged? (← content.field? 2 1 "ty").val)
    | _ => none
  | _ => none
termination_by (sizeOf j, 0)

/-- A part that must be an expression. -/
def required? (content : Json) (part : Json.Part content) : Option Expr := ofTagged? part.val
termination_by (sizeOf content, 0)
decreasing_by exact Prod.Lex.left _ _ part.property

/-- A part that may be missing or null. -/
def optional? (content : Json) (part : Option (Json.Part content)) : Option (Option Expr) :=
  match part with
  | none | some ⟨.null, _⟩ => some none
  | some part => (required? content part).map some
termination_by (sizeOf content, 1)

/-- A part that is a list of expressions. -/
def ofTaggedList? (content : Json) (part : Json.Part content) : Option (List Expr) :=
  match part with
  | ⟨.array items, _smaller⟩ => ofTaggedAll? items
  | _ => none
termination_by (sizeOf content, 0)
decreasing_by
  simp at _smaller
  exact Prod.Lex.left _ _ (by omega)

/-- `ofTagged?` for each item. -/
def ofTaggedAll? (items : List Json) : Option (List Expr) :=
  match items with
  | [] => some []
  | j :: rest => do return (← ofTagged? j) :: (← ofTaggedAll? rest)
termination_by (sizeOf items, 0)

/-- A part that is a list of named expressions. -/
def ofTaggedMembers? (content : Json) (part : Json.Part content) : Option (List (String × Expr)) :=
  match part with
  | ⟨.array items, _smaller⟩ => ofTaggedPairs? items
  | _ => none
termination_by (sizeOf content, 0)
decreasing_by
  simp at _smaller
  exact Prod.Lex.left _ _ (by omega)

/-- Each item is a name with an expression. -/
def ofTaggedPairs? (items : List Json) : Option (List (String × Expr)) :=
  match items with
  | [] => some []
  | .array [.string name, j] :: rest => do return (name, ← ofTagged? j) :: (← ofTaggedPairs? rest)
  | _ => none
termination_by (sizeOf items, 0)

end

end Expr

end DocumentSearch
