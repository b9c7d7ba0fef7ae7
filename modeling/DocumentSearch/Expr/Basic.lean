import DocumentSearch.Comparison
import DocumentSearch.Value.Basic

/-!
# Expressions

Predicates over documents, and the shapes of results, are given as expression trees.

A member or a method without a target is static. Conversions never change what an expression refers to;
`Expr.core` looks through them.
-/

namespace DocumentSearch

/-- A free name of an expression, with the record type it ranges over. -/
structure Parameter where
  name : String
  typeName : String
deriving DecidableEq, Repr

/-- Where a member is declared. -/
inductive Owner where
  /-- On a record type. -/
  | named (typeName : String)
  /-- On the fields that every document has. -/
  | reserved
  /-- On values that may be null. -/
  | nullable
  /-- On strings. -/
  | string
deriving DecidableEq, Repr

/-- A member with its declared type. -/
structure Member where
  name : String
  owner : Owner
  type : ValueType
deriving DecidableEq, Repr

/-- Where a method is declared. -/
inductive MethodOwner where
  | string
  | object
  | math
  /-- Tests and counts on sequences. -/
  | sequence
  /-- Parts of a query. -/
  | query
  /-- Tests that only a search can make. -/
  | search
  /-- On a record type. -/
  | named (typeName : String)
deriving DecidableEq, Repr

/-- A method by owner and name. -/
structure Method where
  name : String
  owner : MethodOwner
deriving DecidableEq, Repr

/-- An operator with one operand. -/
inductive UnaryOperator where
  | not
  | negate
deriving DecidableEq, Repr

/-- The operations on numbers. -/
inductive Arithmetic where
  | add
  | subtract
  | multiply
  | divide
  | modulo
deriving DecidableEq, Repr

/-- An operator with two operands. -/
inductive BinaryOperator where
  | and
  | or
  | equal
  | notEqual
  | compare (comparison : Comparison)
  | arithmetic (operation : Arithmetic)
deriving DecidableEq, Repr

/-- An expression. -/
inductive Expr where
  /-- The document that a predicate or projection is about. -/
  | parameter (p : Parameter)
  | constant (v : Value)
  | member (target : Expr) (m : Member)
  | staticMember (m : Member)
  | call (target : Expr) (m : Method) (args : List Expr)
  | staticCall (m : Method) (args : List Expr)
  | lambda (parameters : List Parameter) (body : Expr)
  | unary (operator : UnaryOperator) (operand : Expr)
  | convert (operand : Expr) (type : ValueType)
  | binary (left : Expr) (operator : BinaryOperator) (right : Expr)
  /-- An object put together from named expressions. -/
  | record (typeName : String) (members : List (String × Expr))
  /-- The entry of a key in the document at hand. -/
  | lookup (key : String) (type : ValueType)
deriving Inhabited

namespace Expr

/-- The expression without the conversions around it. -/
def core : Expr → Expr
  | convert e _ => e.core
  | e => e

/-- The constant that the expression is, conversions aside. -/
def constant? (e : Expr) : Option Value :=
  match e.core with
  | constant v => some v
  | _ => none

/-- The member that the expression is, conversions aside, with its target. -/
def member? (e : Expr) : Option (Option Expr × Member) :=
  match e.core with
  | member target m => some (some target, m)
  | staticMember m => some (none, m)
  | _ => none

/-- The parameter that the expression is. -/
def parameter? : Expr → Option Parameter
  | parameter p => some p
  | _ => none

/-- The body of a lambda; any other expression is its own body. -/
def body : Expr → Expr
  | lambda _ body => body
  | e => e

/-- The type of the expression as far as the tree tells. -/
def type : Expr → ValueType
  | parameter p => .object p.typeName
  | constant v => v.type
  | member _ m | staticMember m => m.type
  | convert _ type | lookup _ type => type
  | record typeName _ => .object typeName
  | binary left (.arithmetic _) _ => left.type
  | binary _ _ _ => .bool
  | unary .not _ => .bool
  | unary .negate operand => operand.type
  | call .. | staticCall .. | lambda .. => .any

/-- The parts of the expression in the order in which they are evaluated. -/
def children : Expr → List Expr
  | parameter _ | constant _ | staticMember _ | lookup .. => []
  | member target _ => [target]
  | call target _ args => target :: args
  | staticCall _ args => args
  | lambda _ body => [body]
  | unary _ operand | convert operand _ => [operand]
  | binary left _ right => [left, right]
  | record _ members => members.map Prod.snd

end Expr

end DocumentSearch
