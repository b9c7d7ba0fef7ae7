import DocumentSearch.Expr.Eval
import DocumentSearch.Proofs.Expr.Nodes

/-!
# What values depend on

The value of an expression depends on its scope by the parameters and lookups in it, and by nothing else
(`eval_congr`).
-/

namespace DocumentSearch

/-- The scopes give the same to each parameter and to each lookup among the expressions. -/
structure Scope.AgreeOn (scope scope' : Scope) (es : List Expr) : Prop where
  parameter {p : Parameter} : .parameter p ∈ es → scope.parameter p = scope'.parameter p
  lookup {key : String} {type : ValueType} : .lookup key type ∈ es → scope.lookup key type = scope'.lookup key type

namespace Expr

variable {scope scope' : Scope} {es : List Expr}

mutual

/-- Scopes that agree on all nodes of an expression give it the same value or the same error. -/
theorem eval_congr (h : scope.AgreeOn scope' es) : ∀ {e : Expr}, e.nodes ⊆ es → e.eval scope = e.eval scope'
  | parameter p, hes => by
    rw [eval, eval, h.parameter (hes (mem_nodes_self _))]
  | lookup key type, hes => by
    rw [eval, eval, h.lookup (hes (mem_nodes_self _))]
  | constant _, _ | staticMember _, _ | lambda .., _ => by rw [eval, eval]
  | member target m, hes => by
    rw [nodes, List.cons_subset] at hes
    rw [eval, eval, eval_congr h hes.2]
  | call target m args, hes => by
    rw [nodes, List.cons_subset, List.append_subset] at hes
    rw [eval, eval, eval_congr h hes.2.1, evalAll_congr h hes.2.2]
  | staticCall m args, hes => by
    rw [nodes, List.cons_subset] at hes
    rw [eval, eval, evalAll_congr h hes.2]
  | unary operator operand, hes => by
    rw [nodes, List.cons_subset] at hes
    rw [eval, eval, eval_congr h hes.2]
  | convert operand type, hes => by
    rw [nodes, List.cons_subset] at hes
    rw [eval, eval, eval_congr h hes.2]
  | binary left operator right, hes => by
    rw [nodes, List.cons_subset, List.append_subset] at hes
    cases operator <;> rw [eval, eval, eval_congr h hes.2.1, eval_congr h hes.2.2]
  | record _ members, hes => by
    rw [nodes, List.cons_subset] at hes
    rw [eval, eval, evalMembers_congr h hes.2]

private theorem evalAll_congr (h : scope.AgreeOn scope' es) : ∀ {args : List Expr}, nodesOfAll args ⊆ es →
    evalAll scope args = evalAll scope' args
  | [], _ => rfl
  | e :: rest, hes => by
    rw [nodesOfAll, List.append_subset] at hes
    rw [evalAll, evalAll, eval_congr h hes.1, evalAll_congr h hes.2]

private theorem evalMembers_congr (h : scope.AgreeOn scope' es) : ∀ {members : List (String × Expr)},
    nodesOfMembers members ⊆ es → evalMembers scope members = evalMembers scope' members
  | [], _ => rfl
  | (_, e) :: rest, hes => by
    rw [nodesOfMembers, List.append_subset] at hes
    rw [evalMembers, evalMembers, eval_congr h hes.1, evalMembers_congr h hes.2]

end

end Expr

end DocumentSearch
