import DocumentSearch.Expr.Builder
import DocumentSearch.Proofs.Criteria.Predicate

/-!
# Grouping of operands

How the operands of nested `and`s or `or`s are grouped makes no difference to the criterion of a predicate
(`ofPredicate_assoc`).

The operands of `or`s are collected from the expression itself. Those of `and`s become conjunctions one by one; what
has been put together so is canonical, and a conjunction of canonical criteria still tells what it was made of
(`and_append_and`).
-/

namespace DocumentSearch.Criteria

variable {mapping : Mapping} {source : String}

/-- The criterion of an expression within a predicate. -/
def ofOperand (mapping : Mapping) (source : String) (e : Expr) : Except CompileError Criteria := do
  return joined (← alternatives mapping source e e)

private theorem canonical_ofOperand {e : Expr} {c : Criteria} (h : ofOperand mapping source e = .ok c) :
    c.Canonical :=
  canonical_ofPredicate (p := .lambda [] e) h

private theorem ofOperand_and (a b : Expr) : ofOperand mapping source (a.and b) = do
    let left ← ofOperand mapping source a
    return and [left, ← ofOperand mapping source b] := by
  simp only [ofOperand, Expr.and, alternatives, bind_assoc, pure_bind, joined]

private theorem and_assoc_of_canonical {a b c : Criteria} (ha : a.Canonical) (hb : b.Canonical) (hc : c.Canonical) :
    and [and [a, b], c] = and [a, and [b, c]] := by
  have hleft : ∀ d ∈ [a, b], d.Canonical := by simp [ha, hb]
  have hright : ∀ d ∈ [b, c], d.Canonical := by simp [hb, hc]
  exact (and_append_and [] [c] hleft).trans (and_append_and [a] [] hright).symm

private theorem ofOperand_and_assoc (a b c : Expr) :
    ofOperand mapping source ((a.and b).and c) = ofOperand mapping source (a.and (b.and c)) := by
  simp only [ofOperand_and, bind_assoc, pure_bind]
  -- the operands are compiled in one order, and so the first error is the same
  cases ha : ofOperand mapping source a with
  | error e => rfl
  | ok x =>
    cases hb : ofOperand mapping source b with
    | error e => rfl
    | ok y =>
      cases hc : ofOperand mapping source c with
      | error e => rfl
      | ok z =>
        exact congrArg Except.ok
          (and_assoc_of_canonical (canonical_ofOperand ha) (canonical_ofOperand hb) (canonical_ofOperand hc))

private theorem ofOperand_or_assoc (a b c : Expr) :
    ofOperand mapping source ((a.or b).or c) = ofOperand mapping source (a.or (b.or c)) := by
  simp only [ofOperand, Expr.or, alternatives, bind_assoc, pure_bind, List.append_assoc]

/-- Three operands of `and`, and three of `or`, have one criterion or one error, however they are grouped. -/
theorem ofPredicate_assoc (mapping : Mapping) (source : String) (a b c : Expr) :
    ofPredicate mapping source ((a.and b).and c) = ofPredicate mapping source (a.and (b.and c)) ∧
    ofPredicate mapping source ((a.or b).or c) = ofPredicate mapping source (a.or (b.or c)) :=
  ⟨ofOperand_and_assoc a b c, ofOperand_or_assoc a b c⟩

end DocumentSearch.Criteria
