import DocumentSearch.Json.Reader
import DocumentSearch.Proofs.Members

/-!
# Documents node by node

`Json.nodes` lists a document with all that it is made of. A property that a document has by its root and its parts, it
has by its nodes (`Json.iff_forall_nodes`).

In a document that was read from a text, every number that is no integer is finite and no object has a name twice
(`Json.forall_nodes_of_ofText?`).
-/

namespace DocumentSearch.Json

/-! ### Parts -/

/-- The items of an array or the values of an object's members. -/
def children : Json → List Json
  | array items => items
  | object members => members.map Prod.snd
  | null | bool _ | integer _ | float _ | string _ => []

theorem sizeOf_lt_of_mem_children {j child : Json} (h : child ∈ j.children) : sizeOf child < sizeOf j := by
  cases j with
  | null | bool | integer | float | string => cases h
  | array items =>
    have hlt : sizeOf child < sizeOf items := List.sizeOf_lt_of_mem h
    rw [array.sizeOf_spec]
    omega
  | object members =>
    have hlt := Members.sizeOf_lt_of_mem_values h
    rw [object.sizeOf_spec]
    omega

/-- What holds of a document whenever it holds of its parts holds of all documents. -/
@[elab_as_elim]
theorem induction_on_children {motive : Json → Prop}
    (step : ∀ j, (∀ child ∈ j.children, motive child) → motive j) (j : Json) : motive j :=
  step j fun child _ => induction_on_children step child
termination_by sizeOf j
decreasing_by exact sizeOf_lt_of_mem_children ‹_›

/-! ### Nodes -/

mutual

/-- The document and all that it is made of. -/
def nodes (j : Json) : List Json :=
  j :: match j with
    | null | bool _ | integer _ | float _ | string _ => []
    | array items => nodesOfItems items
    | object members => nodesOfMembers members

/-- `nodes` of all items. -/
def nodesOfItems : List Json → List Json
  | [] => []
  | j :: rest => nodes j ++ nodesOfItems rest

/-- `nodes` of the values of all members. -/
def nodesOfMembers : List (String × Json) → List Json
  | [] => []
  | (_, j) :: rest => nodes j ++ nodesOfMembers rest

end

theorem nodesOfItems_eq_flatMap (items : List Json) : nodesOfItems items = items.flatMap nodes := by
  induction items with
  | nil => rfl
  | cons j rest ih => rw [nodesOfItems, ih, List.flatMap_cons]

theorem nodesOfMembers_eq_flatMap (members : List (String × Json)) :
    nodesOfMembers members = (members.map Prod.snd).flatMap nodes := by
  induction members with
  | nil => rfl
  | cons m rest ih => rw [nodesOfMembers, ih, List.map_cons, List.flatMap_cons]

/-- A document is made of itself and of what its parts are made of, in their order. -/
theorem nodes_eq_cons (j : Json) : j.nodes = j :: j.children.flatMap nodes := by
  cases j with
  | null | bool | integer | float | string => rw [nodes, children, List.flatMap_nil]
  | array items => rw [nodes, children, nodesOfItems_eq_flatMap]
  | object members => rw [nodes, children, nodesOfMembers_eq_flatMap]

theorem forall_mem_nodes_iff {Q : Json → Prop} {j : Json} :
    (∀ node ∈ j.nodes, Q node) ↔ Q j ∧ ∀ child ∈ j.children, ∀ node ∈ child.nodes, Q node := by
  rw [nodes_eq_cons, List.forall_mem_cons]
  refine and_congr_right fun _ => ?_
  constructor
  · intro h child hchild node hnode
    exact h node (List.mem_flatMap.2 ⟨child, hchild, hnode⟩)
  · intro h node hnode
    obtain ⟨child, hchild, hnode⟩ := List.mem_flatMap.1 hnode
    exact h child hchild node hnode

/-- If a document has `P` exactly when it has `Q` itself and all its parts have `P`, then it has `P` exactly when all
its nodes have `Q`. -/
theorem iff_forall_nodes {P Q : Json → Prop} (step : ∀ j, P j ↔ Q j ∧ ∀ child ∈ j.children, P child) (j : Json) :
    P j ↔ ∀ node ∈ j.nodes, Q node := by
  induction j using induction_on_children with
  | step j ih =>
    rw [step, forall_mem_nodes_iff]
    refine and_congr_right fun _ => ?_
    exact forall₂_congr ih

/-! ### Nodes by themselves -/

/-- The document is no integer, or one of at most 64 bits with sign. -/
def fitsInt64 : Json → Bool
  | integer n => Int64.minValue.toInt ≤ n && n ≤ Int64.maxValue.toInt
  | _ => true

/-- The document is no double-precision number, or a finite one. -/
def isFinite : Json → Bool
  | float x => x.isFinite
  | _ => true

/-- The document is no object, or one that has no name twice. -/
def hasDistinctNames : Json → Bool
  | object members => decide (Members.Distinct members)
  | _ => true

/-! ### Documents that were read -/

mutual

theorem forall_nodes_of_settled? : ∀ {j j' : Json}, j.settled? = some j' →
    ∀ node ∈ j'.nodes, node.isFinite = true ∧ node.hasDistinctNames = true
  | null, _, h | bool _, _, h | integer _, _, h | string _, _, h => by
    obtain rfl := Option.some.inj h
    rw [forall_mem_nodes_iff]
    exact ⟨⟨rfl, rfl⟩, nofun⟩
  | float x, j', h => by
    rw [settled?, Option.ite_none_right_eq_some] at h
    obtain ⟨hx, h⟩ := h
    obtain rfl := Option.some.inj h
    rw [forall_mem_nodes_iff]
    exact ⟨⟨hx, rfl⟩, nofun⟩
  | array items, j', h => by
    obtain ⟨items', hitems, rfl⟩ := Option.map_eq_some_iff.1 h
    rw [forall_mem_nodes_iff]
    exact ⟨⟨rfl, rfl⟩, forall_nodes_of_settledItems? hitems⟩
  | object members, j', h => by
    obtain ⟨members', hmembers, rfl⟩ := Option.map_eq_some_iff.1 h
    rw [forall_mem_nodes_iff]
    -- names may be repeated as written, but not once the members are put one after the other
    have hdistinct : (object (Members.ofList members')).hasDistinctNames = true :=
      decide_eq_true (Members.distinct_ofList members')
    refine ⟨⟨rfl, hdistinct⟩, fun child hchild => ?_⟩
    obtain ⟨m, hm, rfl⟩ := List.mem_map.1 hchild
    exact forall_nodes_of_settledMembers? hmembers m (Members.mem_of_mem_ofList hm)

private theorem forall_nodes_of_settledItems? : ∀ {items items' : List Json}, settledItems? items = some items' →
    ∀ item ∈ items', ∀ node ∈ item.nodes, node.isFinite = true ∧ node.hasDistinctNames = true
  | [], items', h => by
    obtain rfl := Option.some.inj h
    nofun
  | j :: rest, items', h => by
    obtain ⟨j', hj, h⟩ := Option.bind_eq_some_iff.1 h
    obtain ⟨rest', hrest, h⟩ := Option.bind_eq_some_iff.1 h
    obtain rfl := Option.some.inj h
    rw [List.forall_mem_cons]
    exact ⟨forall_nodes_of_settled? hj, forall_nodes_of_settledItems? hrest⟩

private theorem forall_nodes_of_settledMembers? : ∀ {members members' : List (String × Json)},
    settledMembers? members = some members' →
      ∀ m ∈ members', ∀ node ∈ m.2.nodes, node.isFinite = true ∧ node.hasDistinctNames = true
  | [], members', h => by
    obtain rfl := Option.some.inj h
    nofun
  | (name, j) :: rest, members', h => by
    obtain ⟨j', hj, h⟩ := Option.bind_eq_some_iff.1 h
    obtain ⟨rest', hrest, h⟩ := Option.bind_eq_some_iff.1 h
    obtain rfl := Option.some.inj h
    rw [List.forall_mem_cons]
    exact ⟨forall_nodes_of_settled? hj, forall_nodes_of_settledMembers? hrest⟩

end

/-- In a document that was read from a text every number that is no integer is finite, and no name has two members. -/
theorem forall_nodes_of_ofText? {text : String} {j : Json} (h : ofText? text = some j) :
    ∀ node ∈ j.nodes, node.isFinite = true ∧ node.hasDistinctNames = true := by
  obtain ⟨written, -, h⟩ := Option.bind_eq_some_iff.1 h
  exact forall_nodes_of_settled? h

end DocumentSearch.Json
