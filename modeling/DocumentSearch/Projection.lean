import DocumentSearch.CompileError
import DocumentSearch.Document

/-!
# Projections

A projection makes a result from a document. `Projection.ofExpr` changes an expression over documents into one that
reads the fields which the engine returns, and lists these fields for the request.
-/

namespace DocumentSearch

namespace Expr

variable (mapping : Mapping) (source : String)

mutual

/-- The expression with a lookup in place of each member that the mapping has a field for. -/
def withLookups : Expr → Except CompileError Expr
  | member target m =>
    match mapping.fieldName? source (member target m) with
    | some key => return lookup key m.type
    | none => return member (← withLookups target) m
  | staticMember m =>
    match mapping.fieldName? source (staticMember m) with
    | some key => return lookup key m.type
    | none => return staticMember m
  | call target m args => do
    let target ← withLookups target
    return call target m (← withLookupsInAll args)
  | staticCall m args => return staticCall m (← withLookupsInAll args)
  | lambda .. => throw (.unsupported .nestedLambda)
  | unary operator operand => return unary operator (← withLookups operand)
  | convert operand type => return convert (← withLookups operand) type
  | binary left operator right => do
    let left ← withLookups left
    return binary left operator (← withLookups right)
  | record typeName members => return record typeName (← withLookupsInMembers members)
  | parameter p => return parameter p
  | constant v => return constant v
  | lookup key type => return lookup key type

/-- `withLookups` for each expression. -/
def withLookupsInAll : List Expr → Except CompileError (List Expr)
  | [] => return []
  | e :: rest => do
    let e ← withLookups e
    return e :: (← withLookupsInAll rest)

/-- `withLookups` for each named expression. -/
def withLookupsInMembers : List (String × Expr) → Except CompileError (List (String × Expr))
  | [] => return []
  | (name, e) :: rest => do
    let e ← withLookups e
    return (name, e) :: (← withLookupsInMembers rest)

end

mutual

/-- The fields that the mapping has for members of the expression, in the order in which they are evaluated. -/
def fieldsRead : Expr → List String
  | member target m =>
    match mapping.fieldName? source (member target m) with
    | some key => [key]
    | none => fieldsRead target
  | staticMember m => (mapping.fieldName? source (staticMember m)).toList
  | call target _ args => fieldsRead target ++ fieldsReadByAll args
  | staticCall _ args => fieldsReadByAll args
  | lambda _ body => fieldsRead body
  | unary _ operand | convert operand _ => fieldsRead operand
  | binary left _ right => fieldsRead left ++ fieldsRead right
  | record _ members => fieldsReadByMembers members
  | parameter _ | constant _ | lookup .. => []

/-- `fieldsRead` of all expressions. -/
def fieldsReadByAll : List Expr → List String
  | [] => []
  | e :: rest => fieldsRead e ++ fieldsReadByAll rest

/-- `fieldsRead` of all named expressions. -/
def fieldsReadByMembers : List (String × Expr) → List String
  | [] => []
  | (_, e) :: rest => fieldsRead e ++ fieldsReadByMembers rest

end

end Expr

/-- A projection over returned fields. -/
structure Projection where
  body : Expr
  /-- The fields that the body reads, each named once. -/
  fields : List String

namespace Projection

/-- The projection that an expression, or the body of a lambda, describes. Reserved members have fields under any
mapping. -/
def ofExpr (mapping : Mapping) (source : String) (e : Expr) : Except CompileError Projection := do
  let body ← e.body.withLookups mapping.withReserved source
  return ⟨body, (e.body.fieldsRead mapping.withReserved source).eraseDups⟩

/-- `ofExpr` for arguments that may be missing. -/
def ofArguments (mapping : Option Mapping) (source : String) (e : Option Expr) :
    Except CompileError Projection :=
  match mapping, e with
  | none, _ => .error (.missing .mapping)
  | some _, none => .error (.missing .projection)
  | some mapping, some e => ofExpr mapping source e

/-- The result for a document. -/
def apply (p : Projection) (mapping : Mapping) (document : Document) : Except EvalError Value :=
  p.body.eval (document.scope mapping)

end Projection

end DocumentSearch
