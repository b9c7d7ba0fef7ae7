import DocumentSearch.Expr.Basic

/-!
# Parts of expressions

`Expr.nodes` lists an expression with all that it is made of, `Expr.methods` the methods that it calls anywhere, and
`Expr.lookupKeys` the keys that it looks up.
-/

namespace DocumentSearch.Expr

/-! ### Nodes -/

mutual

/-- The expression and all that it is made of. -/
def nodes (e : Expr) : List Expr :=
  e :: match e with
    | parameter _ | constant _ | staticMember _ | lookup .. => []
    | member target _ => nodes target
    | call target _ args => nodes target ++ nodesOfAll args
    | staticCall _ args => nodesOfAll args
    | lambda _ body => nodes body
    | unary _ operand | convert operand _ => nodes operand
    | binary left _ right => nodes left ++ nodes right
    | record _ members => nodesOfMembers members

/-- `nodes` of all expressions. -/
def nodesOfAll : List Expr → List Expr
  | [] => []
  | e :: rest => nodes e ++ nodesOfAll rest

/-- `nodes` of all named expressions. -/
def nodesOfMembers : List (String × Expr) → List Expr
  | [] => []
  | (_, e) :: rest => nodes e ++ nodesOfMembers rest

end

theorem mem_nodes_self (e : Expr) : e ∈ e.nodes := by
  rw [nodes.eq_def]
  exact .head _

theorem nodes_body_subset (e : Expr) : e.body.nodes ⊆ e.nodes := by
  cases e with
  | lambda parameters body =>
    intro s hs
    rw [nodes]
    exact .tail _ hs
  | _ => exact List.Subset.refl _

/-! ### Methods -/

/-- The method that the expression calls. -/
def method? : Expr → Option Method
  | call _ m _ | staticCall m _ => some m
  | _ => none

/-- The methods that are called anywhere in the expression. -/
def methods (e : Expr) : List Method := e.nodes.filterMap method?

/-! ### Lookups -/

/-- The key that the expression looks up. -/
def lookupKey? : Expr → Option String
  | lookup key _ => some key
  | _ => none

/-- The keys that are looked up anywhere in the expression, in the order of evaluation. -/
def lookupKeys (e : Expr) : List String := e.nodes.filterMap lookupKey?

theorem lookupKeys_body (e : Expr) : e.body.lookupKeys = e.lookupKeys := by
  cases e <;> rfl

theorem mem_lookupKeys {e : Expr} {key : String} {type : ValueType} (h : lookup key type ∈ e.nodes) :
    key ∈ e.lookupKeys :=
  List.mem_filterMap.2 ⟨_, h, rfl⟩

end DocumentSearch.Expr
