import DocumentSearch.Expr.Eval
import DocumentSearch.Proofs.Steps
import DocumentSearch.Proofs.Value.Compare

/-!
# Values of tests

What an operator or a method must have found when it gives a truth value. An operand that `and` or `or` leaves out
need have no value.
-/

namespace DocumentSearch

namespace Value

theorem truth_eq_ok {v : Value} {b : Bool} : v.truth = .ok b ↔ v = bool b := by
  cases v <;> simp [truth, bool?]

theorem applyUnary_not_eq_ok {v : Value} {b : Bool} (h : v.applyUnary .not = .ok (bool b)) : v = bool !b := by
  cases v <;> cases h
  rw [Bool.not_not]

/-- A comparison of values that have an order. -/
theorem applyComparison_of_compare? {a b : Value} {o : Ordering} (h : a.compare? b = some o)
    (comparison : Comparison) : applyComparison comparison a b = .ok (bool (comparison.holds o)) := by
  obtain ⟨ha, hb⟩ := isNull_of_compare? h
  rw [applyComparison, ha, hb, h]
  rfl

/-- Equality of strings is loose equality where it has a value. -/
theorem equalStrings_eq_ok {a b v : Value} (ha : a.isNull = false) (h : equalStrings a b none = .ok v) :
    v = bool (a.looselyEqual b) := by
  unfold equalStrings at h
  split at h
  · rename_i hb
    cases b <;> cases hb
    cases h
    rw [looselyEqual_null, ha]
  · cases a <;> cases b <;> cases h
    rfl

private theorem builtin?_equals (owner : MethodOwner) : (Method.mk "equals" owner).builtin? =
    match owner with
    | .string => some .equalsString
    | .object => some .equals
    | _ => none := by
  cases owner <;> rfl

/-- Whoever declares it, `equals` is loose equality where it has a value. -/
theorem invoke_equals_eq_ok {owner : MethodOwner} {a b v : Value}
    (h : invoke ⟨"equals", owner⟩ (some a) [b] = .ok v) : v = bool (a.looselyEqual b) := by
  unfold invoke at h
  split at h
  · cases h
  · rename_i hnull
    rw [Option.any_some, Bool.not_eq_true] at hnull
    rw [builtin?_equals] at h
    cases owner with
    | string => exact equalStrings_eq_ok hnull h
    | object =>
      cases h
      rfl
    | _ => cases h

theorem invoke_staticEquals_eq_ok {owner : MethodOwner} {a b v : Value}
    (h : invoke ⟨"equals", owner⟩ none [a, b] = .ok v) : v = bool (a.looselyEqual b) := by
  unfold invoke at h
  rw [Option.any_none, if_neg Bool.false_ne_true, builtin?_equals] at h
  cases owner with
  | object =>
    cases h
    rfl
  | _ => cases h

end Value

namespace Expr

variable {scope : Scope} {a b : Expr} {result : Bool}

theorem evalAll_singleton {v : Value} (h : a.eval scope = .ok v) : evalAll scope [a] = .ok [v] := by
  rw [evalAll, h]
  rfl

theorem evalAll_pair {v w : Value} (hv : a.eval scope = .ok v) (hw : b.eval scope = .ok w) :
    evalAll scope [a, b] = .ok [v, w] := by
  rw [evalAll, hv, evalAll_singleton hw]
  rfl

theorem eval_and_eq_ok (h : (binary a .and b).eval scope = .ok (.bool result)) :
    (a.eval scope = .ok (.bool false) ∧ result = false) ∨
      (a.eval scope = .ok (.bool true) ∧ b.eval scope = .ok (.bool result)) := by
  rw [eval] at h
  obtain ⟨x, hx, h⟩ := bind_eq_ok.1 h
  obtain ⟨left, hleft, h⟩ := bind_eq_ok.1 h
  rw [Value.truth_eq_ok.1 hleft] at hx
  cases left with
  | false =>
    cases h
    exact .inl ⟨hx, rfl⟩
  | true =>
    obtain ⟨y, hy, h⟩ := bind_eq_ok.1 h
    obtain ⟨right, hright, h⟩ := bind_eq_ok.1 h
    cases h
    exact .inr ⟨hx, Value.truth_eq_ok.1 hright ▸ hy⟩

theorem eval_or_eq_ok (h : (binary a .or b).eval scope = .ok (.bool result)) :
    (a.eval scope = .ok (.bool true) ∧ result = true) ∨
      (a.eval scope = .ok (.bool false) ∧ b.eval scope = .ok (.bool result)) := by
  rw [eval] at h
  obtain ⟨x, hx, h⟩ := bind_eq_ok.1 h
  obtain ⟨left, hleft, h⟩ := bind_eq_ok.1 h
  rw [Value.truth_eq_ok.1 hleft] at hx
  cases left with
  | true =>
    cases h
    exact .inl ⟨hx, rfl⟩
  | false =>
    obtain ⟨y, hy, h⟩ := bind_eq_ok.1 h
    obtain ⟨right, hright, h⟩ := bind_eq_ok.1 h
    cases h
    exact .inr ⟨hx, Value.truth_eq_ok.1 hright ▸ hy⟩

theorem eval_not_eq_ok (h : (unary .not a).eval scope = .ok (.bool result)) :
    a.eval scope = .ok (.bool !result) := by
  rw [eval] at h
  obtain ⟨x, hx, h⟩ := bind_eq_ok.1 h
  rw [hx, Value.applyUnary_not_eq_ok h]

end Expr

end DocumentSearch
