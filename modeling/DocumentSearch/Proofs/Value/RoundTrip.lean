import DocumentSearch.Proofs.Json.Nodes
import DocumentSearch.Proofs.Value.Json

/-!
# From a document to a value and back

A value holds the integers of at most 64 bits with sign and the double-precision numbers. A document comes back from the
value that it shows just as it was exactly if each of its numbers is one of these (`toJson_ofJson_eq_self_iff`): a
larger integer is rounded, and a number that is not finite comes back as null. All else is kept, with members in their
order.

Of the documents that were read from a text, only those with a larger integer are changed (`toJson_ofJson_of_ofText?`).
-/

namespace DocumentSearch.Value

/-! ### Items and members -/

private theorem map_eq_self_iff {α : Type} {f : α → α} {xs : List α} : xs.map f = xs ↔ ∀ x ∈ xs, f x = x := by
  have h : xs.map f = xs.map id ↔ ∀ x ∈ xs, f x = id x := List.map_inj_left
  rw [List.map_id] at h
  exact h

theorem ofJsonMembers_eq_map (members : List (String × Json)) :
    ofJsonMembers members = members.map fun m => (m.1, ofJson m.2) := by
  induction members with
  | nil => rfl
  | cons m rest ih => rw [ofJsonMembers, ih, List.map_cons]

theorem toJsonItems_eq_map (items : List Value) : toJsonItems items = items.map toJson := by
  induction items with
  | nil => rfl
  | cons v rest ih => rw [toJsonItems, ih, List.map_cons]

theorem toJsonMembers_eq_map (members : List (String × Value)) :
    toJsonMembers members = members.map fun m => (m.1, toJson m.2) := by
  induction members with
  | nil => rfl
  | cons m rest ih => rw [toJsonMembers, ih, List.map_cons]

theorem distinctItems_iff {items : List Value} : DistinctItems items ↔ ∀ v ∈ items, v.Distinct := by
  induction items with
  | nil => simp [DistinctItems]
  | cons v rest ih => rw [DistinctItems, ih, List.forall_mem_cons]

theorem distinctMembers_iff {members : List (String × Value)} :
    DistinctMembers members ↔ ∀ m ∈ members, m.2.Distinct := by
  induction members with
  | nil => simp [DistinctMembers]
  | cons m rest ih => rw [DistinctMembers, ih, List.forall_mem_cons]

/-! ### One node -/

/-- An integer comes back if a value holds it as an integer. -/
theorem toJson_ofJsonInteger_eq_iff (n : Int) :
    (ofJsonInteger n).toJson = .integer n ↔ (Json.integer n).fitsInt64 = true := by
  rw [Json.fitsInt64, Bool.and_eq_true, decide_eq_true_iff, decide_eq_true_iff, ofJsonInteger]
  split
  · rename_i hfits
    have hback : (Int64.ofInt n).toInt = n := by
      have hmin : Int64.minValue.toInt = -2 ^ 63 := rfl
      have hmax : Int64.maxValue.toInt = 2 ^ 63 - 1 := rfl
      exact Int64.toInt_ofInt_of_le (by omega) (by omega)
    rw [toJson, hback]
    exact iff_of_true rfl hfits
  · rename_i hfits
    refine iff_of_false ?_ hfits
    intro hback
    -- what comes back is a float or null, and so no integer at all
    rw [toJson, Json.ofFloat] at hback
    split at hback <;> cases hback

/-- A number that is not finite comes back as null. -/
theorem ofFloat_eq_iff (x : Float) : Json.ofFloat x = .float x ↔ (Json.float x).isFinite = true := by
  rw [Json.ofFloat, Json.isFinite]
  split
  · exact iff_of_true rfl ‹_›
  · exact iff_of_false nofun ‹_›

/-- A document comes back just as it was if the node at its root is held by a value and all parts come back. -/
theorem toJson_ofJson_eq_iff_children (j : Json) :
    (ofJson j).toJson = j ↔
      (j.fitsInt64 = true ∧ j.isFinite = true) ∧ ∀ child ∈ j.children, (ofJson child).toJson = child := by
  cases j with
  | null | bool | string => exact iff_of_true rfl ⟨⟨rfl, rfl⟩, List.forall_mem_nil _⟩
  | integer n =>
    rw [ofJson, toJson_ofJsonInteger_eq_iff]
    exact ⟨fun h => ⟨⟨h, rfl⟩, List.forall_mem_nil _⟩, fun h => h.1.1⟩
  | float x =>
    rw [ofJson, toJson, ofFloat_eq_iff]
    exact ⟨fun h => ⟨⟨rfl, h⟩, List.forall_mem_nil _⟩, fun h => h.1.2⟩
  | array items =>
    rw [ofJson, toJson, Json.array.injEq, ofJsonItems_eq_map, toJsonItems_eq_map, List.map_map, map_eq_self_iff]
    exact ⟨fun h => ⟨⟨rfl, rfl⟩, h⟩, fun h => h.2⟩
  | object members =>
    rw [ofJson, toJson, Json.object.injEq, ofJsonMembers_eq_map, toJsonMembers_eq_map, List.map_map, map_eq_self_iff]
    constructor
    · intro h
      refine ⟨⟨rfl, rfl⟩, fun child hchild => ?_⟩
      obtain ⟨m, hm, rfl⟩ := List.mem_map.1 hchild
      exact congrArg Prod.snd (h m hm)
    · rintro ⟨-, h⟩ m hm
      have hback : (ofJson m.2).toJson = m.2 := h m.2 (List.mem_map_of_mem hm)
      exact Prod.ext rfl hback

/-- The value of a document has a name twice only where the document has it twice. -/
theorem distinct_ofJson_iff_children (j : Json) :
    (ofJson j).Distinct ↔ j.hasDistinctNames = true ∧ ∀ child ∈ j.children, (ofJson child).Distinct := by
  cases j with
  | null | bool | float | string => exact iff_of_true trivial ⟨rfl, List.forall_mem_nil _⟩
  | integer n =>
    refine iff_of_true ?_ ⟨rfl, List.forall_mem_nil _⟩
    rw [ofJson, ofJsonInteger]
    split <;> trivial
  | array items =>
    rw [ofJson, Distinct, distinctItems_iff, ofJsonItems_eq_map, List.forall_mem_map]
    exact ⟨fun h => ⟨rfl, h⟩, fun h => h.2⟩
  | object members =>
    have hnames : Members.names (ofJsonMembers members) = Members.names members := by
      rw [ofJsonMembers_eq_map, Members.names, List.map_map]
      rfl
    rw [ofJson, Distinct, distinctMembers_iff, Members.Distinct, hnames, ofJsonMembers_eq_map, List.forall_mem_map,
      Json.hasDistinctNames, decide_eq_true_iff, Json.children, List.forall_mem_map]
    exact Iff.rfl

/-! ### Whole documents -/

/-- A document comes back from the value that it shows just as it was, exactly if every integer in it has at most 64
bits with sign and every other number is finite. The members of an object come back in their order, and the value has a
name twice only where the document has. -/
theorem toJson_ofJson_eq_self_iff (j : Json) :
    ((ofJson j).toJson = j ↔ ∀ node ∈ j.nodes, node.fitsInt64 = true ∧ node.isFinite = true) ∧
    ((ofJson j).Distinct ↔ ∀ node ∈ j.nodes, node.hasDistinctNames = true) := by
  constructor
  · exact Json.iff_forall_nodes toJson_ofJson_eq_iff_children j
  · exact Json.iff_forall_nodes distinct_ofJson_iff_children j

/-- Empty containers, a float without a fraction, minus zero, the greatest integer and names out of their order. -/
example :
    let j : Json := .object [("b", .array [.float 1, .float (-0), .array [], .object []]),
      ("a", .integer 9223372036854775807)]
    (ofJson j).toJson = j := rfl

/-- A document that was read from a text shows a value without repeated names, and comes back from it just as it was
unless it has an integer of more than 64 bits with sign. -/
theorem toJson_ofJson_of_ofText? {text : String} {j : Json} (h : Json.ofText? text = some j) :
    (ofJson j).Distinct ∧ ((ofJson j).toJson = j ↔ ∀ node ∈ j.nodes, node.fitsInt64 = true) := by
  have hread := Json.forall_nodes_of_ofText? h
  constructor
  · rw [Json.iff_forall_nodes distinct_ofJson_iff_children]
    exact fun node hnode => (hread node hnode).2
  · rw [Json.iff_forall_nodes toJson_ofJson_eq_iff_children]
    constructor
    · exact fun hheld node hnode => (hheld node hnode).1
    · exact fun hfits node hnode => ⟨hfits node hnode, (hread node hnode).1⟩

end DocumentSearch.Value
