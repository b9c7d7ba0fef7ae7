import Mathlib.Data.List.Forall2
import DocumentSearch.Proofs.Expr.Nodes
import DocumentSearch.Proofs.Members

/-!
# Parts and positions

What is proved of an expression from its parts holds of every expression (`Expr.induction_on_children`), whatever the
forms of expressions are. `Expr.form` is what an expression is apart from its parts, and `Expr.at?` is the expression
that is found at a position, by the way that leads down to it.
-/

namespace DocumentSearch.Expr

/-! ### Induction over the parts -/

theorem sizeOf_lt_of_mem_children {e child : Expr} (h : child ∈ e.children) : sizeOf child < sizeOf e := by
  cases e with
  | parameter | constant | staticMember | lookup => cases h
  | member | lambda | unary | convert =>
    obtain rfl := List.mem_singleton.1 h
    simp only [member.sizeOf_spec, lambda.sizeOf_spec, unary.sizeOf_spec, convert.sizeOf_spec]
    omega
  | binary left operator right =>
    rw [binary.sizeOf_spec]
    rcases List.mem_cons.1 h with rfl | h
    · omega
    · obtain rfl := List.mem_singleton.1 h
      omega
  | call target m args =>
    rw [call.sizeOf_spec]
    rcases List.mem_cons.1 h with rfl | h
    · omega
    · have hlt : sizeOf child < sizeOf args := List.sizeOf_lt_of_mem h
      omega
  | staticCall m args =>
    have hlt : sizeOf child < sizeOf args := List.sizeOf_lt_of_mem h
    rw [staticCall.sizeOf_spec]
    omega
  | record typeName members =>
    have hlt := Members.sizeOf_lt_of_mem_values h
    rw [record.sizeOf_spec]
    omega

/-- What holds of an expression whenever it holds of its parts holds of all expressions. -/
@[elab_as_elim]
theorem induction_on_children {motive : Expr → Prop}
    (step : ∀ e, (∀ child ∈ e.children, motive child) → motive e) (e : Expr) : motive e :=
  step e fun child _ => induction_on_children step child
termination_by sizeOf e
decreasing_by exact sizeOf_lt_of_mem_children ‹_›

/-! ### Nodes of the parts -/

theorem nodesOfAll_eq_flatMap (es : List Expr) : nodesOfAll es = es.flatMap nodes := by
  induction es with
  | nil => rfl
  | cons e rest ih => rw [nodesOfAll, ih, List.flatMap_cons]

theorem nodesOfMembers_eq_flatMap (es : List (String × Expr)) :
    nodesOfMembers es = (es.map Prod.snd).flatMap nodes := by
  induction es with
  | nil => rfl
  | cons e rest ih => rw [nodesOfMembers, ih, List.map_cons, List.flatMap_cons]

/-- An expression is made of itself and of what its parts are made of, in their order. -/
theorem nodes_eq_cons (e : Expr) : e.nodes = e :: e.children.flatMap nodes := by
  cases e with
  | parameter | constant | staticMember | lookup => rw [nodes, children, List.flatMap_nil]
  | member | lambda | unary | convert => rw [nodes, children, List.flatMap_singleton]
  | binary left operator right => rw [nodes, children, List.flatMap_cons, List.flatMap_singleton]
  | call target m args => rw [nodes, children, List.flatMap_cons, nodesOfAll_eq_flatMap]
  | staticCall m args => rw [nodes, children, nodesOfAll_eq_flatMap]
  | record typeName members => rw [nodes, children, nodesOfMembers_eq_flatMap]

theorem mem_nodes_iff {e s : Expr} : s ∈ e.nodes ↔ s = e ∨ ∃ child ∈ e.children, s ∈ child.nodes := by
  rw [nodes_eq_cons, List.mem_cons, List.mem_flatMap]

theorem nodes_subset_of_mem_children {e child : Expr} (h : child ∈ e.children) : child.nodes ⊆ e.nodes :=
  fun _ hs => mem_nodes_iff.2 (.inr ⟨child, h, hs⟩)

/-- What is collected from the nodes of an expression begins with what the expression itself gives. -/
theorem filterMap_nodes {α : Type} (f : Expr → Option α) (e : Expr) :
    e.nodes.filterMap f = (f e).toList ++ e.children.flatMap fun child => child.nodes.filterMap f := by
  rw [nodes_eq_cons, List.filterMap_cons, List.filterMap_flatMap]
  cases f e <;> rfl

/-! ### Related parts -/

section

variable {R S : Expr → Expr → Prop} {es es' : List Expr}

/-- Of two lists with related parts, each part of one is related to a part of the other. -/
theorem mem_of_forall₂ (h : List.Forall₂ R es es') :
    (∀ e' ∈ es', ∃ e ∈ es, R e e') ∧ ∀ e ∈ es, ∃ e' ∈ es', R e e' := by
  induction h with
  | nil => simp
  | @cons e e' rest rest' he _ ih =>
    constructor
    · rw [List.forall_mem_cons]
      refine ⟨⟨e, .head _, he⟩, fun s' hs' => ?_⟩
      obtain ⟨s, hs, hss'⟩ := ih.1 s' hs'
      exact ⟨s, .tail _ hs, hss'⟩
    · rw [List.forall_mem_cons]
      refine ⟨⟨e', .head _, he⟩, fun s hs => ?_⟩
      obtain ⟨s', hs', hss'⟩ := ih.2 s hs
      exact ⟨s', .tail _ hs', hss'⟩

theorem forall₂_imp_of_mem (h : List.Forall₂ R es es') (hRS : ∀ e ∈ es, ∀ e', R e e' → S e e') :
    List.Forall₂ S es es' :=
  ((List.forall₂_and_left _ _).2 ⟨hRS, h⟩).imp fun _ e' he => he.1 e' he.2

theorem flatMap_eq_of_forall₂ {α : Type} {f g : Expr → List α}
    (h : List.Forall₂ (fun e e' => g e' = f e) es es') : es'.flatMap g = es.flatMap f := by
  induction h with
  | nil => rfl
  | cons he _ ih => rw [List.flatMap_cons, List.flatMap_cons, he, ih]

end

/-! ### Forms -/

/-- The expression with the same constant in place of each part: its kind and all that it holds besides its parts. -/
def form : Expr → Expr
  | member _ m => member (constant .null) m
  | call _ m args => call (constant .null) m (args.map fun _ => constant .null)
  | staticCall m args => staticCall m (args.map fun _ => constant .null)
  | lambda parameters _ => lambda parameters (constant .null)
  | unary operator _ => unary operator (constant .null)
  | convert _ type => convert (constant .null) type
  | binary _ operator _ => binary (constant .null) operator (constant .null)
  | record typeName members => record typeName (members.map fun m => (m.1, constant .null))
  | e => e

theorem eq_member_of_form {r target : Expr} {m : Member} (h : r.form = (member target m).form) :
    ∃ target', r = member target' m := by
  cases r <;> cases h
  exact ⟨_, rfl⟩

theorem eq_convert_of_form {r operand : Expr} {type : ValueType} (h : r.form = (convert operand type).form) :
    ∃ operand', r = convert operand' type := by
  cases r <;> cases h
  exact ⟨_, rfl⟩

theorem eq_unary_of_form {r operand : Expr} {operator : UnaryOperator}
    (h : r.form = (unary operator operand).form) : ∃ operand', r = unary operator operand' := by
  cases r <;> cases h
  exact ⟨_, rfl⟩

theorem eq_binary_of_form {r left right : Expr} {operator : BinaryOperator}
    (h : r.form = (binary left operator right).form) : ∃ left' right', r = binary left' operator right' := by
  cases r <;> cases h
  exact ⟨_, _, rfl⟩

/-- The form of an expression and the types of its parts make up its type. -/
theorem type_congr {e r : Expr} (hform : r.form = e.form)
    (hparts : List.Forall₂ (fun child r => r.type = child.type) e.children r.children) : r.type = e.type := by
  have htypes : r.form.type = e.form.type := congrArg type hform
  cases e with
  | unary operator operand =>
    obtain ⟨operand', rfl⟩ := eq_unary_of_form hform
    obtain - | ⟨hoperand, -⟩ := hparts
    cases operator with
    | not => rfl
    | negate => exact hoperand
  | binary left operator right =>
    obtain ⟨left', right', rfl⟩ := eq_binary_of_form hform
    obtain - | ⟨hleft, -⟩ := hparts
    cases operator with
    | arithmetic operation => exact hleft
    | _ => rfl
  | _ =>
    -- the type of any other form does not depend on the parts
    cases r <;> first | exact htypes | cases hform

/-! ### Positions -/

/-- The expression at a position, which gives the place among the parts for each step down. -/
def at? (e : Expr) : List Nat → Option Expr
  | [] => some e
  | i :: position => e.children[i]?.bind fun child => child.at? position

theorem at?_cons_eq_some {e s : Expr} {i : Nat} {position : List Nat} :
    e.at? (i :: position) = some s ↔ ∃ child, e.children[i]? = some child ∧ child.at? position = some s := by
  rw [at?, Option.bind_eq_some_iff]

/-- What an expression is made of is what is found at its positions. -/
theorem mem_nodes_iff_exists_at? {e s : Expr} : s ∈ e.nodes ↔ ∃ position, e.at? position = some s := by
  constructor
  · intro h
    induction e using induction_on_children with
    | step e ih =>
      rcases mem_nodes_iff.1 h with rfl | ⟨child, hchild, hs⟩
      · exact ⟨[], rfl⟩
      · obtain ⟨position, hposition⟩ := ih child hchild hs
        obtain ⟨i, hi⟩ := List.mem_iff_getElem?.1 hchild
        exact ⟨i :: position, at?_cons_eq_some.2 ⟨child, hi, hposition⟩⟩
  · rintro ⟨position, h⟩
    induction position generalizing e with
    | nil =>
      obtain rfl : e = s := Option.some.inj h
      exact mem_nodes_self e
    | cons i position ih =>
      obtain ⟨child, hchild, h⟩ := at?_cons_eq_some.1 h
      exact nodes_subset_of_mem_children (List.mem_of_getElem? hchild) (ih h)

end DocumentSearch.Expr
