import DocumentSearch.Criteria.Combine

/-!
# The meaning of criteria

An `Interpretation` says of every leaf whether it holds of a document; `Criteria.holds` says it of every criterion.
A `LeafCondition` restricts what the leaves carry, and `Criteria.Leaves` asks it of every leaf of a criterion.
-/

namespace DocumentSearch

/-- Which leaves hold of a document, by the kind of leaf and all that it carries. -/
structure Interpretation where
  term (field : String) (value : Value) (member : Option Member) : Bool
  terms (field : String) (values : List Value) (execution : Option ExecutionMode) (member : Option Member) : Bool
  range (field : String) (comparison : Comparison) (value : Value) (member : Option Member) : Bool
  present (field : String) : Bool
  missing (field : String) : Bool
  pattern (kind : PatternKind) (field text : String) : Bool
  analyzed (field : String) (value : Value) (member : Option Member) : Bool

/-- A condition on what leaves carry. -/
structure LeafCondition where
  field (name : String) : Prop := True
  /-- A value that the content of a field may be equal to. -/
  equals (field : String) (value : Value) : Prop := True
  /-- A value that the content of a field is compared with by order. -/
  ordered (field : String) (value : Value) : Prop := True
  pattern (kind : PatternKind) (text : String) : Prop := True
  /-- A hint how to look for several terms. -/
  mode (execution : ExecutionMode) : Prop := True
  /-- Leaves may match analysed content. -/
  analyzed : Prop := True

/-- The condition that all leaves satisfy. -/
def LeafCondition.any : LeafCondition := {}

namespace Criteria

/-! ### Where criteria hold -/

mutual

/-- The criterion holds, if the leaves do of which `I` says so. -/
def holds (I : Interpretation) : Criteria → Bool
  | term field value member => I.term field value member
  | terms field values execution member => I.terms field values execution member
  | range field comparison value member => I.range field comparison value member
  | present field => I.present field
  | missing field => I.missing field
  | pattern kind field text => I.pattern kind field text
  | analyzed field value member => I.analyzed field value member
  | bool must should mustNot =>
    allHold I must && !anyHolds I mustNot && (should.isEmpty || anyHolds I should)
  | negation c => !holds I c
  | disjunction clauses => anyHolds I clauses
  | matchAll => true

/-- All of the criteria hold. -/
def allHold (I : Interpretation) : List Criteria → Bool
  | [] => true
  | c :: rest => holds I c && allHold I rest

/-- One of the criteria holds. -/
def anyHolds (I : Interpretation) : List Criteria → Bool
  | [] => false
  | c :: rest => holds I c || anyHolds I rest

end

variable (I : Interpretation)

theorem allHold_eq (cs : List Criteria) : allHold I cs = cs.all (holds I) := by
  induction cs with
  | nil => rfl
  | cons c rest ih => rw [allHold, ih, List.all_cons]

theorem anyHolds_eq (cs : List Criteria) : anyHolds I cs = cs.any (holds I) := by
  induction cs with
  | nil => rfl
  | cons c rest ih => rw [anyHolds, ih, List.any_cons]

@[simp] theorem holds_bool (must should mustNot : List Criteria) :
    holds I (bool must should mustNot) =
      (must.all (holds I) && !mustNot.any (holds I) && (should.isEmpty || should.any (holds I))) := by
  rw [holds, allHold_eq, anyHolds_eq, anyHolds_eq]

@[simp] theorem holds_negation (c : Criteria) : holds I (negation c) = !holds I c := by
  rw [holds]

@[simp] theorem holds_disjunction (clauses : List Criteria) :
    holds I (disjunction clauses) = clauses.any (holds I) := by
  rw [holds, anyHolds_eq]

@[simp] theorem holds_matchAll : holds I matchAll = true := rfl

@[simp] theorem holds_matchNone : holds I matchNone = false := rfl

/-! ### Conditions on leaves -/

mutual

/-- Every leaf of the criterion satisfies the condition. -/
def Leaves (P : LeafCondition) : Criteria → Prop
  | term field value _ => P.field field ∧ P.equals field value
  | terms field values execution _ =>
    P.field field ∧ (∀ v ∈ values, P.equals field v) ∧ ∀ mode ∈ execution, P.mode mode
  | range field _ value _ => P.field field ∧ P.ordered field value
  | present field | missing field => P.field field
  | pattern kind field text => P.field field ∧ P.pattern kind text
  | analyzed field value _ => P.field field ∧ P.equals field value ∧ P.analyzed
  | bool must should mustNot => AllLeaves P must ∧ AllLeaves P should ∧ AllLeaves P mustNot
  | negation c => Leaves P c
  | disjunction clauses => AllLeaves P clauses
  | matchAll => True

/-- `Leaves` for each criterion. -/
def AllLeaves (P : LeafCondition) : List Criteria → Prop
  | [] => True
  | c :: rest => Leaves P c ∧ AllLeaves P rest

end

variable {P : LeafCondition}

theorem allLeaves_iff {cs : List Criteria} : AllLeaves P cs ↔ ∀ c ∈ cs, c.Leaves P := by
  induction cs with
  | nil => simp [AllLeaves]
  | cons c rest ih => rw [AllLeaves, ih, List.forall_mem_cons]

@[simp] theorem leaves_bool {must should mustNot : List Criteria} :
    (bool must should mustNot).Leaves P ↔
      (∀ c ∈ must, c.Leaves P) ∧ (∀ c ∈ should, c.Leaves P) ∧ ∀ c ∈ mustNot, c.Leaves P := by
  simp only [Leaves, allLeaves_iff]

@[simp] theorem leaves_negation {c : Criteria} : (negation c).Leaves P ↔ c.Leaves P := by
  rw [Leaves]

@[simp] theorem leaves_disjunction {clauses : List Criteria} :
    (disjunction clauses).Leaves P ↔ ∀ c ∈ clauses, c.Leaves P := by
  rw [Leaves, allLeaves_iff]

@[simp] theorem leaves_matchAll : matchAll.Leaves P := trivial

@[simp] theorem leaves_matchNone : matchNone.Leaves P := trivial

theorem field_of_leaves {c : Criteria} {field : String} (h : c.Leaves P) (hfield : c.field? = some field) :
    P.field field := by
  cases c <;> cases hfield <;> first | exact h | exact h.1

mutual

theorem leaves_any : ∀ c : Criteria, c.Leaves .any
  | bool must should mustNot => ⟨allLeaves_any must, allLeaves_any should, allLeaves_any mustNot⟩
  | negation c => leaves_negation.2 (leaves_any c)
  | disjunction clauses => allLeaves_any clauses
  | term .. | terms .. | range .. | present _ | missing _ | pattern .. | analyzed .. | matchAll => by
    simp [Leaves, LeafCondition.any]

private theorem allLeaves_any : ∀ cs : List Criteria, AllLeaves .any cs
  | [] => trivial
  | c :: rest => ⟨leaves_any c, allLeaves_any rest⟩

end

end Criteria

end DocumentSearch
