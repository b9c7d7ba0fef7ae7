import DocumentSearch.Mapping.Document
import DocumentSearch.Proofs.Criteria.Predicate

/-!
# Null in compiled predicates

A comparison with null becomes a test of presence or is refused, and so the leaves of compiled predicates hold no null
(`leaves_notNull_ofPredicate`). The exceptions are three kinds of calls that take a null as any other constant
(`Expr.takesNull`): equality in a mode that disregards letter case, the search for null in a sequence, and lists of
values in which there is null. Such a call becomes a leaf with null in it.
-/

namespace DocumentSearch

open Criteria

/-- Leaves hold no null as a value. -/
def LeafCondition.notNull : LeafCondition where
  equals _ v := v ≠ .null
  ordered _ v := v ≠ .null

namespace Expr

/-- The expression is the constant null. -/
def isNullConstant (e : Expr) : Bool := e.constant?.any Value.isNull

/-- The expression is a constant array with null among its items. -/
def listsNull (e : Expr) : Bool := (e.constant?.bind Value.items?).any fun items => items.any Value.isNull

/-- A call with these arguments takes a null among its constants as any other value. -/
def callTakesNull (m : Method) (target? : Option Expr) (args : List Expr) : Bool :=
  match m.builtin?, target?, args with
  | some .equalsString, some a, [b, mode] =>
    mode.constant?.any Value.ignoresCase && (Pairing.of? a b).any fun p => p.constant.isNull
  | some .hasItem, some items, [item] | some .hasItem, none, [items, item] => items.listsNull || item.isNullConstant
  | some .containsAny, none, [_, values] | some .containsAll, none, [_, values] => values.listsNull
  | _, _, _ => false

/-- The expression is such a call. -/
def takesNull : Expr → Bool
  | call target m args => callTakesNull m (some target) args
  | staticCall m args => callTakesNull m none args
  | _ => false

end Expr

namespace Criteria

variable {mapping : Mapping} {source : String} {c : Criteria}

/-! ### Comparisons -/

private theorem leaves_notNull_ofEquality {a b : Expr} (h : ofEquality mapping source a b = .ok c) :
    c.Leaves .notNull := by
  obtain ⟨p, -, h⟩ := ofEquality_eq_ok.1 h
  rcases equalityOf_cases h with ⟨b, _, _, _, _, _, _, _, _, rfl⟩ |
    ⟨_, _, _, ⟨_, _, _, rfl⟩ | ⟨_, rfl⟩ | ⟨hnull, _, rfl⟩ | ⟨_, w, hw, rfl⟩⟩
  · cases b <;> trivial
  · trivial
  · trivial
  · exact ⟨trivial, hnull⟩
  · exact ⟨trivial, hw, trivial⟩

private theorem leaves_notNull_ofComparison {comparison : Comparison} {a b : Expr}
    (h : ofComparison mapping source comparison a b = .ok c) : c.Leaves .notNull := by
  obtain ⟨p, field, _, hnull, _, _, rfl⟩ := ofComparison_cases h
  exact ⟨trivial, hnull⟩

/-! ### Calls -/

private theorem isNull_eq_false {v : Value} : v.isNull = false ↔ v ≠ .null := by
  cases v <;> simp [Value.isNull]

private theorem listsNull_eq {values : Expr} {vs : List Value} (h : valueList values = .ok vs) :
    values.listsNull = vs.any Value.isNull := by
  unfold valueList at h
  unfold Expr.listsNull
  split at h
  · rename_i hconstant
    cases h
    rw [hconstant]
    rfl
  · cases h
  · cases h
  · rename_i v _ _ hconstant
    cases h
    -- a single value is neither an array nor null
    rw [hconstant]
    cases v <;> simp_all [Value.items?, Value.isNull]

private theorem leaves_notNull_ofValues {e values : Expr} {execution : Option ExecutionMode}
    (h : ofValues mapping source e values execution = .ok c) : c.Leaves .notNull ↔ values.listsNull = false := by
  obtain ⟨vs, _, hvs, _, _, ⟨v, rfl, rfl⟩ | rfl⟩ := ofValues_cases h
  · rw [listsNull_eq hvs]
    simp [Leaves, LeafCondition.notNull, isNull_eq_false]
  · rw [listsNull_eq hvs]
    simp [Leaves, LeafCondition.notNull, isNull_eq_false]

private theorem leaves_notNull_ofHasItem {items item : Expr} (h : ofHasItem mapping source items item = .ok c) :
    c.Leaves .notNull ↔ (items.listsNull || item.isNullConstant) = false := by
  rcases ofHasItem_cases h with ⟨hitem, h⟩ | ⟨v, field, hitems, hitem, -, rfl⟩
  · rw [leaves_notNull_ofValues h, Expr.isNullConstant, hitem, Option.any_none, Bool.or_false]
  · simp [Leaves, LeafCondition.notNull, Expr.listsNull, Expr.isNullConstant, hitems, hitem, isNull_eq_false]

private theorem leaves_notNull_ofEqualityInMode {a b mode : Expr}
    (h : ofEqualityInMode mapping source a b mode = .ok c) :
    c.Leaves .notNull ↔
      (mode.constant?.any Value.ignoresCase && (Pairing.of? a b).any fun p => p.constant.isNull) = false := by
  rcases ofEqualityInMode_cases h with ⟨hmode, p, field, w, hp, -, hw, rfl⟩ | ⟨hmode, h⟩
  · rw [hmode, hp, Bool.true_and, Option.any_some, isNull_eq_false, ne_eq, ← not_congr hw]
    simp [Leaves, LeafCondition.notNull]
  · simp [hmode, leaves_notNull_ofEquality h]

private theorem leaves_notNull_ofPattern {kind : PatternKind} {e text : Expr}
    (h : ofPattern mapping source kind e text = .ok c) : c.Leaves .notNull := by
  obtain ⟨_, _, _, _, _, _, rfl⟩ := ofPattern_cases h
  exact ⟨trivial, trivial⟩

private theorem leaves_notNull_ofQuoted {kind : PatternKind} {write : String → String} {e text : Expr}
    (h : ofQuoted mapping source kind write e text = .ok c) : c.Leaves .notNull := by
  obtain ⟨_, _, _, _, _, _, rfl⟩ := ofQuoted_cases h
  exact ⟨trivial, trivial⟩

private theorem leaves_notNull_ofCall {m : Method} {target? : Option Expr} {args : List Expr}
    (h : ofCall mapping source m target? args = .ok c) :
    c.Leaves .notNull ↔ Expr.callTakesNull m target? args = false := by
  unfold ofCall at h
  unfold Expr.callTakesNull
  -- the methods in the order of `ofCall`, and last those that are refused
  split at h <;> rename_i hm <;> simp only [hm]
  · exact iff_of_true (leaves_notNull_ofEquality h) trivial
  · exact iff_of_true (leaves_notNull_ofEquality h) trivial
  · exact iff_of_true (leaves_notNull_ofEquality h) trivial
  · exact leaves_notNull_ofEqualityInMode h
  · exact iff_of_true (leaves_notNull_ofPattern h) trivial
  · exact iff_of_true (leaves_notNull_ofQuoted h) trivial
  · exact iff_of_true (leaves_notNull_ofQuoted h) trivial
  · exact leaves_notNull_ofHasItem h
  · exact leaves_notNull_ofHasItem h
  · exact iff_of_true (leaves_notNull_ofPattern h) trivial
  · exact iff_of_true (leaves_notNull_ofPattern h) trivial
  · exact iff_of_true (leaves_notNull_ofPattern h) trivial
  · exact leaves_notNull_ofValues h
  · exact leaves_notNull_ofValues h
  · cases h

/-! ### Predicates -/

/-- A test becomes a leaf with null in it exactly where it is a call that takes null. -/
theorem leaves_notNull_iff_of_leafFor {s : Expr} (h : LeafFor mapping source s c) :
    c.Leaves .notNull ↔ s.takesNull = false := by
  cases h with
  | equal h => exact iff_of_true (leaves_notNull_ofEquality h) rfl
  | notEqual h => exact iff_of_true (leaves_notNull_ofEquality h) rfl
  | compare h => exact iff_of_true (leaves_notNull_ofComparison h) rfl
  | call h => exact leaves_notNull_ofCall h
  | staticCall h => exact leaves_notNull_ofCall h
  | hasValue _ _ h =>
    obtain ⟨_, rfl⟩ := presence_eq_ok.1 h
    exact iff_of_true trivial rfl
  | member h =>
    obtain ⟨_, _, _, _, rfl⟩ := ofMember_cases h
    exact iff_of_true ⟨trivial, nofun⟩ rfl
  | staticMember h =>
    obtain ⟨_, _, _, _, rfl⟩ := ofMember_cases h
    exact iff_of_true ⟨trivial, nofun⟩ rfl

/-- A predicate that takes null is a call, and its criterion is a leaf. -/
private theorem leafFor_body_of_takesNull {p : Expr} (hp : p.body.takesNull = true)
    (h : ofPredicate mapping source p = .ok c) : LeafFor mapping source p.body c := by
  obtain ⟨cs, hcs, h⟩ := bind_eq_ok.1 h
  cases h
  generalize p.body = e at hp hcs
  cases e with
  | call target m args =>
    obtain ⟨c, hc, rfl⟩ := bind_singleton_eq_ok.1 hcs
    exact .call hc
  | staticCall m args =>
    obtain ⟨c, hc, rfl⟩ := bind_singleton_eq_ok.1 hcs
    exact .staticCall hc
  | _ => cases hp

/-- The criterion of a predicate holds no null where no call in the predicate takes one. A predicate that is such a call
by itself becomes a leaf with null in it. -/
theorem leaves_notNull_ofPredicate {p : Expr} (h : ofPredicate mapping source p = .ok c) :
    ((∀ s ∈ p.nodes, s.takesNull = false) → c.Leaves .notNull) ∧
      (p.body.takesNull = true → ¬ c.Leaves .notNull) := by
  constructor
  · intro hp
    exact ofPredicate_induction (kept_leaves _) (fun s hs _ hd => (leaves_notNull_iff_of_leafFor hd).2 (hp s hs)) h
  · intro hp hleaves
    rw [(leaves_notNull_iff_of_leafFor (leafFor_body_of_takesNull hp h)).1 hleaves] at hp
    cases hp

/-- Comparisons with null in four spellings, beside a list of values. -/
theorem leaves_notNull_ofPredicate_user :
    let user : Expr := .parameter ⟨"w", "WebUser"⟩
    let name : Expr := .member user ⟨"name", .named "WebUser", .string⟩
    let age : Expr := .member user ⟨"age", .named "WebUser", .nullable .int32⟩
    let null : Expr := .constant .null
    let unknown : Expr := .binary (.binary name .equal null) .or (.call null ⟨"equals", .string⟩ [name])
    let known : Expr := .binary (.unary .not (.staticCall ⟨"equals", .object⟩ [age, null])) .and
      (.binary (.member age ⟨"has_value", .nullable, .bool⟩) .notEqual (.constant (.bool false)))
    let listed : Expr := .staticCall ⟨"contains_any", .search⟩ [name, .constant (.array [.string "Ana", .string "Eva"])]
    let p : Expr := .binary (.binary unknown .or known) .or listed
    let mapping : DocumentMapping := { options := .plain }
    (∀ s ∈ p.nodes, s.takesNull = false) ∧
      ∃ c, ofPredicate mapping.toMapping.withReserved "WebUser" p = .ok c ∧ c.Leaves .notNull := by
  intro user name age null unknown known listed p mapping
  have hp : ∀ s ∈ p.nodes, s.takesNull = false := by decide
  obtain ⟨c, hc⟩ : ∃ c, ofPredicate mapping.toMapping.withReserved "WebUser" p = .ok c := ⟨_, rfl⟩
  exact ⟨hp, c, hc, (leaves_notNull_ofPredicate hc).1 hp⟩

/-- Compared with null without regard to letter case, a name is looked for as null. -/
theorem analyzed_null_of_equalsIgnoringCase :
    let name : Expr := .member (.parameter ⟨"w", "WebUser"⟩) ⟨"name", .named "WebUser", .string⟩
    let p : Expr := .call name ⟨"equals", .string⟩ [.constant .null, .constant (.string "ignore_case")]
    let mapping : DocumentMapping := { options := .plain }
    ∃ c, ofPredicate mapping.toMapping.withReserved "WebUser" p = .ok c ∧ ¬ c.Leaves .notNull := by
  intro name p mapping
  refine ⟨analyzed "name" .null (some ⟨"name", .named "WebUser", .string⟩), rfl, ?_⟩
  simp [Leaves, LeafCondition.notNull]

end Criteria

end DocumentSearch
