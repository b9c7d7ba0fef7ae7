import DocumentSearch.Criteria.Basic
import DocumentSearch.Expr.Eval

/-!
# Failures of compilation

Why an expression cannot become a part of a search request.
-/

namespace DocumentSearch

/-- A form of expression that no search can express. The texts show the expression or name what it reads. -/
inductive Unsupported where
  | notPredicate (text : String)
  /-- An equality that is not one of a constant with something else. -/
  | equality
  | equalityWithNull (name : String)
  /-- An order comparison that is not one of a constant with something else. -/
  | comparison
  | orderWithNull (name : String)
  /-- An equality in some mode that is not one of a constant with something else. -/
  | equalityInMode
  | method (m : Method)
  /-- A search in a sequence that is not one for a constant in a field or the other way round. -/
  | hasItem
  | valueList
  | patternText
  | nestedLambda
deriving DecidableEq, Repr

/-- The words for what is not supported. -/
def Unsupported.text : Unsupported → String
  | notPredicate text => s!"{text} is not a predicate"
  | equality => "equality must compare one constant with one field"
  | equalityWithNull name => s!"{name} cannot be compared with null"
  | comparison => "comparison must compare one constant with one field"
  | orderWithNull name => s!"{name} cannot be ordered against null"
  | equalityInMode => "equals must compare one constant with one field"
  | method m => s!"method {m.path} has no search equivalent"
  | hasItem => "contains must test a field against constants"
  | valueList => "the value list must be a constant sequence"
  | patternText => "pattern argument must be a constant string"
  | nestedLambda => "nested lambdas are not supported in projections"

/-- Something without which nothing can be compiled. -/
inductive Argument where
  | mapping
  | projection
deriving DecidableEq, Repr

/-- The word for an argument. -/
def Argument.text : Argument → String
  | mapping => "mapping"
  | projection => "projection"

/-- Why an expression cannot be compiled. -/
inductive CompileError where
  | missing (argument : Argument)
  | unsupported (what : Unsupported)
  /-- The mapping has no field for what an expression reads. -/
  | unresolvable (name : String)
  | evaluation (e : EvalError)
  | criteria (e : CriteriaError)
deriving DecidableEq, Repr

/-- The message of a failed compilation. -/
def CompileError.message : CompileError → String
  | missing argument => s!"Missing required argument: {argument.text}"
  | unsupported what => s!"Unsupported expression: {what.text}"
  | unresolvable name => s!"Unable to resolve a field name for member '{name}'"
  | evaluation e => s!"Constant evaluation failed: {e.message}"
  | criteria e => s!"Invalid criteria: {e.message}"

end DocumentSearch
