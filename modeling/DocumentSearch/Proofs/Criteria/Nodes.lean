import DocumentSearch.Mapping.Document
import DocumentSearch.Proofs.Criteria.Predicate

/-!
# Criteria node by node

`Criteria.nodes` lists a criterion with all that it is made of. `IsCanonicalNode` says of a single node what it may be
put together from and what it carries; in the criterion of a predicate all nodes are of this form
(`forall_nodes_ofPredicate`).
-/

namespace DocumentSearch.Criteria

/-! ### Nodes -/

mutual

/-- The criterion and all that it is made of. -/
def nodes (c : Criteria) : List Criteria :=
  c :: match c with
    | bool must should mustNot => nodesOfAll must ++ nodesOfAll should ++ nodesOfAll mustNot
    | negation c => nodes c
    | disjunction clauses => nodesOfAll clauses
    | term .. | terms .. | range .. | present _ | missing _ | pattern .. | analyzed .. | matchAll => []

/-- `nodes` of all criteria. -/
def nodesOfAll : List Criteria → List Criteria
  | [] => []
  | c :: rest => nodes c ++ nodesOfAll rest

end

theorem mem_nodesOfAll {cs : List Criteria} {node : Criteria} :
    node ∈ nodesOfAll cs ↔ ∃ c ∈ cs, node ∈ c.nodes := by
  induction cs with
  | nil => simp [nodesOfAll]
  | cons c rest ih => simp [nodesOfAll, ih]

theorem nodes_of_isLeaf {c : Criteria} (h : c.isLeaf = true) : c.nodes = [c] := by
  cases c <;> first | rfl | cases h

/-! ### Canonical nodes -/

/-- What a node of a compiled predicate is made of: several clauses at least, none of which could be merged with the
node itself, and leaves that name a field and hold no blank pattern. -/
def IsCanonicalNode : Criteria → Prop
  | disjunction clauses => 2 ≤ clauses.length ∧ ∀ c ∈ clauses, c.isAlternative = true
  | negation c => c.hasOpposite = false
  | bool must should mustNot =>
    should = [] ∧ 2 ≤ must.length + mustNot.length ∧ (∀ c ∈ must, c.isConjunct = true) ∧
      ∀ c ∈ mustNot, c.hasOpposite = false
  | matchAll => True
  | pattern _ field text => field ≠ "" ∧ Text.isBlank text = false
  | term field _ _ | terms field _ _ _ | range field _ _ _ | present field | missing field | analyzed field _ _ =>
    field ≠ ""

private theorem isCanonicalNode_of_isLeaf {c : Criteria} {hints : Prop} (h : c.isLeaf = true)
    (hleaves : c.Leaves (.compiled hints)) : c.IsCanonicalNode := by
  cases c with
  | term | terms | range | analyzed => exact hleaves.1
  | present | missing | pattern => exact hleaves
  | bool | negation | disjunction | matchAll => cases h

/-- The form of a criterion as a whole is that of each of its nodes. -/
theorem isCanonicalNode_of_mem_nodes {c : Criteria} {hints : Prop} (h : c.Canonical)
    (hleaves : c.Leaves (.compiled hints)) : ∀ node ∈ c.nodes, node.IsCanonicalNode := by
  induction h with
  | @leaf c hleaf =>
    rw [nodes_of_isLeaf hleaf, List.forall_mem_singleton]
    exact isCanonicalNode_of_isLeaf hleaf hleaves
  | matchAll => simp [nodes, IsCanonicalNode]
  | negation hopposite _ ih =>
    rw [nodes, List.forall_mem_cons]
    exact ⟨hopposite, ih (leaves_negation.1 hleaves)⟩
  | @bool must mustNot hlength hmust _ hmustNot _ ihmust ihmustNot =>
    obtain ⟨hleavesMust, -, hleavesMustNot⟩ := leaves_bool.1 hleaves
    rw [nodes, List.forall_mem_cons, nodesOfAll, List.append_nil, List.forall_mem_append]
    refine ⟨⟨rfl, hlength, hmust, hmustNot⟩, fun node hnode => ?_, fun node hnode => ?_⟩
    · obtain ⟨c, hc, hnode⟩ := mem_nodesOfAll.1 hnode
      exact ihmust c hc (hleavesMust c hc) node hnode
    · obtain ⟨c, hc, hnode⟩ := mem_nodesOfAll.1 hnode
      exact ihmustNot c hc (hleavesMustNot c hc) node hnode
  | disjunction hlength halternative _ ih =>
    rw [nodes, List.forall_mem_cons]
    refine ⟨⟨hlength, halternative⟩, fun node hnode => ?_⟩
    obtain ⟨c, hc, hnode⟩ := mem_nodesOfAll.1 hnode
    exact ih c hc (leaves_disjunction.1 hleaves c hc) node hnode

/-- Every node in the criterion of a predicate is in canonical form: a disjunction has several clauses that are no
disjunctions and decide something; what is negated or excluded has no opposite of its own; a boolean query has no
optional clauses, several others, and requires nothing that is one itself; leaves name a field and no pattern is
blank. -/
theorem forall_nodes_ofPredicate {mapping : Mapping} {source : String} {p : Expr} {c : Criteria}
    (h : ofPredicate mapping source p = .ok c) : ∀ node ∈ c.nodes, node.IsCanonicalNode :=
  isCanonicalNode_of_mem_nodes (canonical_ofPredicate h) (leaves_ofPredicate (fun _ => True.intro) h)

/-- Users who are not young with a known name, or whose name begins in some way. -/
theorem forall_nodes_ofPredicate_user :
    let user : Expr := .parameter ⟨"w", "WebUser"⟩
    let age : Expr := .member user ⟨"age", .named "WebUser", .nullable .int32⟩
    let name : Expr := .member user ⟨"name", .named "WebUser", .nullable .string⟩
    let young : Expr := .binary (.binary age (.compare .less) (.constant (.int32 21))) .and
      (.binary name .notEqual (.constant .null))
    let p : Expr := .binary (.unary .not young) .or (.call name ⟨"starts_with", .string⟩ [.constant (.string "Mo")])
    let mapping : DocumentMapping := { options := .plain }
    ∃ c, ofPredicate mapping.toMapping.withReserved "WebUser" p = .ok c ∧ ∀ node ∈ c.nodes, node.IsCanonicalNode := by
  intro user age name young p mapping
  obtain ⟨c, hc⟩ : ∃ c, ofPredicate mapping.toMapping.withReserved "WebUser" p = .ok c := ⟨_, rfl⟩
  exact ⟨c, hc, forall_nodes_ofPredicate hc⟩

end DocumentSearch.Criteria
