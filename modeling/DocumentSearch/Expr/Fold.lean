import DocumentSearch.Expr.Eval

/-!
# Folding

The parts of an expression that depend on nothing outside it are computed once, before the expression is used.

An expression is `local` if it holds no parameter, lambda, lookup or reserved member and no method of a sequence,
query or search. `Expr.fold` replaces each largest local part by its value.
-/

namespace DocumentSearch

/-- A member has a value of its own, apart from any search. -/
def Member.isLocal (m : Member) : Bool := m.owner != .reserved

/-- A method can be computed without a search. -/
def Method.isLocal (m : Method) : Bool :=
  m.owner != .sequence && m.owner != .query && m.owner != .search

namespace Expr

mutual

/-- Nothing in the expression depends on a document or a search. -/
def isLocal : Expr → Bool
  | parameter _ | lambda .. | lookup .. => false
  | constant _ => true
  | member target m => m.isLocal && isLocal target
  | staticMember m => m.isLocal
  | call target m args => m.isLocal && isLocal target && areLocal args
  | staticCall m args => m.isLocal && areLocal args
  | unary _ operand | convert operand _ => isLocal operand
  | binary left _ right => isLocal left && isLocal right
  | record _ members => membersAreLocal members

/-- `isLocal` of all expressions. -/
def areLocal : List Expr → Bool
  | [] => true
  | e :: rest => isLocal e && areLocal rest

/-- `isLocal` of all named expressions. -/
def membersAreLocal : List (String × Expr) → Bool
  | [] => true
  | (_, e) :: rest => isLocal e && membersAreLocal rest

end

/-- The constant that a local expression amounts to. A constant stays as it is. -/
def computed : Expr → Except EvalError Expr
  | constant v => .ok (constant v)
  | e => e.evaluate.map constant

mutual

/-- The expression with each largest local part computed. The first error is the result. -/
def fold (e : Expr) : Except EvalError Expr :=
  if e.isLocal then
    e.computed
  else
    match e with
    | parameter _ | constant _ | staticMember _ | lookup .. => .ok e
    | member target m => return member (← fold target) m
    | call target m args => do
      let target ← fold target
      return call target m (← foldAll args)
    | staticCall m args => return staticCall m (← foldAll args)
    | lambda parameters body => return lambda parameters (← fold body)
    | unary operator operand => return unary operator (← fold operand)
    | convert operand type => return convert (← fold operand) type
    | binary left operator right => do
      let left ← fold left
      return binary left operator (← fold right)
    | record typeName members => return record typeName (← foldMembers members)

/-- `fold` of each expression, one after the other. -/
def foldAll : List Expr → Except EvalError (List Expr)
  | [] => return []
  | e :: rest => do
    let e ← fold e
    return e :: (← foldAll rest)

/-- `fold` of each named expression, one after the other. -/
def foldMembers : List (String × Expr) → Except EvalError (List (String × Expr))
  | [] => return []
  | (name, e) :: rest => do
    let e ← fold e
    return (name, e) :: (← foldMembers rest)

end

end Expr

end DocumentSearch
