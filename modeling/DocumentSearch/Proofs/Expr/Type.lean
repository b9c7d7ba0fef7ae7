import DocumentSearch.Document
import DocumentSearch.Proofs.Expr.Eval
import DocumentSearch.Proofs.Expr.Nodes
import DocumentSearch.Proofs.Value.Conformance

/-!
# Types of expressions

`Expr.type` is the type that the tree tells. Where lookups and members have values of their types, an expression has a
value of its type, unless it strays from it (`Expr.conforms_type_or_strays`).

Two kinds of nodes stray, as null comes out of `not` and as arithmetic has the type of its left operand only. Whether
a right operand leads out of the type of the left one can be told from the two (`Value.keeps_iff`).
-/

namespace DocumentSearch

namespace ValueType

/-- The scalars of a kind have the type. -/
def admits : ValueType → ValueType → Bool
  | any, _ => true
  | nullable t, kind => t.admits kind
  | t, kind => t = kind

/-- Arithmetic on a value of the type has this type again if its right operand is the given value. -/
def keeps (t : ValueType) : Value → Bool
  | .null => t.isNullable
  | .string _ => t.admits .string
  | .int64 _ => !t.admits .int32 || t.admits .int64
  | .float _ => !(t.admits .int32 || t.admits .int64) || t.admits .float
  | .bool _ | .int32 _ | .dateTime _ | .array _ | .object _ => true

end ValueType

namespace Value

variable {a b v w : Value} {t : ValueType} {operation : Arithmetic}

theorem conforms_type (v : Value) : v.Conforms v.type := by
  cases v with
  | null => exact .any _
  | bool | int32 | int64 | float | string | dateTime => exact .scalar rfl rfl
  | array items => exact .sequence fun item _ => .any item
  | object members => exact .object members _

/-- Null has the types that allow for it. -/
theorem conforms_null_iff : null.Conforms t ↔ t.isNullable = true := by
  constructor
  · intro h
    cases h with
    | any | nullable => rfl
    | null ht => exact ht
    | scalar _ ht =>
      subst ht
      rfl
  · exact .null

/-- A type that does not allow for null has the scalars of its own kind. -/
private theorem conforms_iff_type_eq (hscalar : v.isScalar = true) (hnull : v.isNull = false) (hany : t ≠ .any)
    (hnullable : ∀ inner, t ≠ .nullable inner) : v.Conforms t ↔ v.type = t := by
  refine ⟨fun h => ?_, .scalar hscalar⟩
  cases h with
  | any => exact absurd rfl hany
  | null => cases hnull
  | nullable => exact absurd rfl (hnullable _)
  | sequence | object => cases hscalar
  | scalar _ ht => exact ht

/-- Which types a scalar has depends on its kind only. -/
theorem conforms_iff_admits (hscalar : v.isScalar = true) (hnull : v.isNull = false) :
    v.Conforms t ↔ t.admits v.type = true := by
  induction t with
  | any => exact ⟨fun _ => rfl, fun _ => .any v⟩
  | nullable t ih =>
    refine ⟨fun h => ?_, fun h => .nullable (ih.2 h)⟩
    cases h with
    | null => cases hnull
    | nullable h => exact ih.1 h
    | scalar _ ht => cases v <;> cases ht
  | bool | int32 | int64 | float | string | dateTime | sequence | object =>
    exact Iff.trans (conforms_iff_type_eq hscalar hnull nofun nofun) (eq_comm.trans decide_eq_true_iff.symm)

theorem Conforms.of_type_eq (h : v.Conforms t) (hw : w.isScalar = true) (hnull : w.isNull = false)
    (htype : w.type = v.type) : w.Conforms t := by
  have hv : v.isScalar = true ∧ v.isNull = false := by
    cases w <;> cases hw <;> cases hnull <;> cases v <;> cases htype <;> exact ⟨rfl, rfl⟩
  rw [conforms_iff_admits hw hnull, htype]
  exact (conforms_iff_admits hv.1 hv.2).1 h

/-- What arithmetic on two values can give. -/
inductive ArithmeticResult : Value → Value → Value → Prop
  | same {a b v : Value} : v.isScalar = true → v.isNull = false → v.type = a.type → ArithmeticResult a b v
  | nullLeft (b : Value) : ArithmeticResult null b null
  | nullRight (a : Value) : ArithmeticResult a null null
  | text (a : Value) (s s' : String) : ArithmeticResult a (string s) (string s')
  | wide (m : Int32) (n k : Int64) : ArithmeticResult (int32 m) (int64 n) (int64 k)
  | narrowFloat (m : Int32) (x y : Float) : ArithmeticResult (int32 m) (float x) (float y)
  | wideFloat (m : Int64) (x y : Float) : ArithmeticResult (int64 m) (float x) (float y)

theorem arithmeticResult_of_applyNumbers (h : applyNumbers operation a b = .ok v) : ArithmeticResult a b v := by
  cases a with
  | int32 m =>
    cases b with
    | int32 =>
      obtain ⟨k, -, h⟩ := bind_eq_ok.1 h
      obtain ⟨k', rfl⟩ := castToInt32_eq_ok (mapError_eq_ok.1 h)
      exact .same rfl rfl rfl
    | int64 n =>
      obtain ⟨k, -, h⟩ := bind_eq_ok.1 h
      cases h
      exact .wide m n k
    | float x =>
      cases h
      exact .narrowFloat m x _
    | null | bool | string | dateTime | array | object => cases h
  | int64 m =>
    cases b with
    | int32 | int64 =>
      obtain ⟨k, -, h⟩ := bind_eq_ok.1 h
      cases h
      exact .same rfl rfl rfl
    | float x =>
      cases h
      exact .wideFloat m x _
    | null | bool | string | dateTime | array | object => cases h
  | float x =>
    cases b with
    | int32 | int64 | float =>
      cases h
      exact .same rfl rfl rfl
    | null | bool | string | dateTime | array | object => cases h
  | null | bool | string | dateTime | array | object => cases h

theorem arithmeticResult_of_applyArithmetic (h : applyArithmetic operation a b = .ok v) : ArithmeticResult a b v := by
  unfold applyArithmetic at h
  split at h
  · rename_i htext
    cases h
    cases a with
    | string => exact .same rfl rfl rfl
    | _ =>
      cases b with
      | string => exact .text ..
      | _ => cases htext.2
  · split at h
    · rename_i hnull
      cases h
      cases a with
      | null => exact .nullLeft b
      | _ =>
        cases b with
        | null => exact .nullRight _
        | _ => cases hnull
    · exact arithmeticResult_of_applyNumbers h

/-- With a right operand that keeps the type of the left one, arithmetic has this type. -/
theorem Conforms.of_keeps (h : a.Conforms t) (hkeeps : t.keeps b = true) (hresult : ArithmeticResult a b v) :
    v.Conforms t := by
  cases hresult with
  | same hscalar hnull htype => exact h.of_type_eq hscalar hnull htype
  | nullLeft => exact h
  | nullRight => exact conforms_null_iff.2 hkeeps
  | text => exact (conforms_iff_admits rfl rfl).2 hkeeps
  | wide =>
    have ht : t.admits .int32 = true := (conforms_iff_admits rfl rfl).1 h
    rw [ValueType.keeps, ht, Bool.not_true, Bool.false_or] at hkeeps
    exact (conforms_iff_admits rfl rfl).2 hkeeps
  | narrowFloat =>
    have ht : t.admits .int32 = true := (conforms_iff_admits rfl rfl).1 h
    rw [ValueType.keeps, ht, Bool.true_or, Bool.not_true, Bool.false_or] at hkeeps
    exact (conforms_iff_admits rfl rfl).2 hkeeps
  | wideFloat =>
    have ht : t.admits .int64 = true := (conforms_iff_admits rfl rfl).1 h
    rw [ValueType.keeps, ht, Bool.or_true, Bool.not_true, Bool.false_or] at hkeeps
    exact (conforms_iff_admits rfl rfl).2 hkeeps

/-- The right operands that keep a type are those with which no arithmetic leads out of it. -/
theorem keeps_iff : t.keeps b = true ↔
    ∀ operation a v, a.Conforms t → applyArithmetic operation a b = .ok v → v.Conforms t := by
  refine ⟨fun hkeeps operation a v ha h => ha.of_keeps hkeeps (arithmeticResult_of_applyArithmetic h), fun h => ?_⟩
  cases b with
  | bool | int32 | dateTime | array | object => rfl
  | null =>
    exact conforms_null_iff.1 (h .add t.zero null (conforms_zero t) (by cases t <;> rfl))
  | string s =>
    have hjoined : applyArithmetic .add t.zero (string s) = .ok (string (t.zero.part ++ (string s).part)) :=
      if_pos ⟨rfl, Bool.or_true _⟩
    exact (conforms_iff_admits rfl rfl).1 (h .add t.zero _ (conforms_zero t) hjoined)
  | int64 n =>
    rw [ValueType.keeps]
    cases ht : t.admits .int32 with
    | false => rfl
    | true => exact (conforms_iff_admits rfl rfl).1 (h .add (int32 0) _ ((conforms_iff_admits rfl rfl).2 ht) rfl)
  | float x =>
    rw [ValueType.keeps]
    cases ht : t.admits .int32 with
    | true => exact (conforms_iff_admits rfl rfl).1 (h .add (int32 0) _ ((conforms_iff_admits rfl rfl).2 ht) rfl)
    | false =>
      cases ht' : t.admits .int64 with
      | true => exact (conforms_iff_admits rfl rfl).1 (h .add (int64 0) _ ((conforms_iff_admits rfl rfl).2 ht') rfl)
      | false => rfl

theorem conforms_of_applyUnary_negate (ha : a.Conforms t) (h : a.applyUnary .negate = .ok v) : v.Conforms t := by
  cases a with
  | null =>
    cases h
    exact ha
  | int32 | int64 | float =>
    cases h
    exact ha.of_type_eq rfl rfl rfl
  | bool | string | dateTime | array | object => cases h

theorem conforms_of_applyUnary_not (hnull : a ≠ null) (h : a.applyUnary .not = .ok v) : v.Conforms .bool := by
  cases a with
  | null => exact absurd rfl hnull
  | bool =>
    cases h
    exact .scalar rfl rfl
  | int32 | int64 | float | string | dateTime | array | object => cases h

theorem conforms_of_applyComparison {comparison : Comparison} (h : applyComparison comparison a b = .ok v) :
    v.Conforms .bool := by
  unfold applyComparison at h
  split at h
  · cases h
    exact .scalar rfl rfl
  · split at h <;> cases h
    exact .scalar rfl rfl

end Value

/-- Parameters and lookups have values of their types. -/
structure Scope.IsTyped (scope : Scope) : Prop where
  parameter {p : Parameter} {v : Value} : scope.parameter p = .ok v → v.Conforms (.object p.typeName)
  lookup {key : String} {t : ValueType} {v : Value} : scope.lookup key t = .ok v → v.Conforms t

theorem Scope.isTyped_empty : Scope.empty.IsTyped := ⟨nofun, nofun⟩

/-- The members among the expressions have values of their types. -/
def Scope.TypesMembers (scope : Scope) (es : List Expr) : Prop :=
  ∀ target m, .member target m ∈ es → ∀ v, (Expr.member target m).eval scope = .ok v → v.Conforms m.type

/-- Documents are read as values of the types that are asked for. -/
theorem Document.isTyped_scope (mapping : DocumentMapping) (document : Document) :
    (document.scope mapping.toMapping).IsTyped where
  parameter {p v} h := by
    unfold scope at h
    split at h
    · exact Value.conforms_of_ofJsonAs (mapError_eq_ok.1 h)
    · cases h
  lookup h := Value.conforms_of_fieldValue (mapError_eq_ok.1 h)

namespace Expr

variable {scope : Scope}

private theorem conforms_of_truth {e : Expr} {v : Value}
    (h : (do return Value.bool (← (← e.eval scope).truth)) = Except.ok v) : v.Conforms .bool := by
  obtain ⟨b, -, h⟩ := bind_eq_ok.1 h
  obtain ⟨y, -, h⟩ := bind_eq_ok.1 h
  cases h
  exact .scalar rfl rfl

/-- Operators other than arithmetic give truth values. -/
private theorem conforms_of_ne_arithmetic {left right : Expr} {operator : BinaryOperator} {v : Value}
    (h : (binary left operator right).eval scope = .ok v)
    (hoperator : ∀ operation, operator ≠ .arithmetic operation) : v.Conforms .bool := by
  cases operator with
  | and =>
    rw [eval] at h
    obtain ⟨a, -, h⟩ := bind_eq_ok.1 h
    obtain ⟨x, -, h⟩ := bind_eq_ok.1 h
    cases x with
    | false =>
      cases h
      exact .scalar rfl rfl
    | true => exact conforms_of_truth h
  | or =>
    rw [eval] at h
    obtain ⟨a, -, h⟩ := bind_eq_ok.1 h
    obtain ⟨x, -, h⟩ := bind_eq_ok.1 h
    cases x with
    | true =>
      cases h
      exact .scalar rfl rfl
    | false => exact conforms_of_truth h
  | equal | notEqual =>
    rw [eval] at h
    obtain ⟨a, -, h⟩ := bind_eq_ok.1 h
    obtain ⟨b, -, h⟩ := bind_eq_ok.1 h
    cases h
    exact .scalar rfl rfl
  | compare comparison =>
    rw [eval] at h
    obtain ⟨a, -, h⟩ := bind_eq_ok.1 h
    obtain ⟨b, -, h⟩ := bind_eq_ok.1 h
    exact Value.conforms_of_applyComparison h
  | arithmetic operation => exact absurd rfl (hoperator operation)

/-- On the way to the type, which goes by the operand of a negation and by the left operand of arithmetic, there is a
negated test without a truth value or a right operand that does not keep the type. -/
inductive Strays (scope : Scope) : Expr → Prop
  | not {operand : Expr} : operand.eval scope = .ok .null → Strays scope (unary .not operand)
  | right {left right : Expr} {operation : Arithmetic} {b : Value} : right.eval scope = .ok b →
      left.type.keeps b = false → Strays scope (binary left (.arithmetic operation) right)
  | negate {operand : Expr} : Strays scope operand → Strays scope (unary .negate operand)
  | left {left right : Expr} {operation : Arithmetic} : Strays scope left →
      Strays scope (binary left (.arithmetic operation) right)

/-- Where parameters, lookups and members have values of their types, an expression has a value of its type or it
strays. -/
theorem conforms_type_or_strays (hscope : scope.IsTyped) : ∀ {e : Expr} {v : Value},
    scope.TypesMembers e.nodes → e.eval scope = .ok v → v.Conforms e.type ∨ e.Strays scope
  | parameter p, v, _, h => by
    rw [eval] at h
    exact .inl (hscope.parameter h)
  | lookup key t, v, _, h => by
    rw [eval] at h
    exact .inl (hscope.lookup h)
  | constant v, _, _, h => by
    rw [eval] at h
    cases h
    exact .inl v.conforms_type
  | member target m, v, hmembers, h => .inl (hmembers target m (mem_nodes_self _) v h)
  | staticMember m, v, _, h | lambda .., v, _, h => by
    rw [eval] at h
    cases h
  | call .., v, _, _ | staticCall .., v, _, _ => .inl (.any v)
  | convert operand t, v, _, h => by
    rw [eval] at h
    obtain ⟨a, -, h⟩ := bind_eq_ok.1 h
    exact .inl (Value.conforms_of_cast_eq_ok (mapError_eq_ok.1 h))
  | record name members, v, _, h => by
    rw [eval] at h
    obtain ⟨members, -, h⟩ := bind_eq_ok.1 h
    cases h
    exact .inl (.object _ name)
  | unary .not operand, v, _, h => by
    rw [eval] at h
    obtain ⟨a, ha, h⟩ := bind_eq_ok.1 h
    by_cases hnull : a = .null
    · exact .inr (.not (hnull ▸ ha))
    · exact .inl (Value.conforms_of_applyUnary_not hnull h)
  | unary .negate operand, v, hmembers, h => by
    rw [eval] at h
    obtain ⟨a, ha, h⟩ := bind_eq_ok.1 h
    rw [nodes] at hmembers
    obtain hconforms | hstrays := conforms_type_or_strays hscope (fun _ _ hm => hmembers _ _ (.tail _ hm)) ha
    · exact .inl (Value.conforms_of_applyUnary_negate hconforms h)
    · exact .inr (.negate hstrays)
  | binary left (.arithmetic operation) right, v, hmembers, h => by
    rw [eval] at h
    obtain ⟨a, ha, h⟩ := bind_eq_ok.1 h
    obtain ⟨b, hb, h⟩ := bind_eq_ok.1 h
    rw [nodes] at hmembers
    obtain hconforms | hstrays := conforms_type_or_strays hscope
      (fun _ _ hm => hmembers _ _ (.tail _ (List.mem_append_left _ hm))) ha
    · cases hkeeps : left.type.keeps b with
      | true => exact .inl (Value.keeps_iff.1 hkeeps operation a v hconforms h)
      | false => exact .inr (.right hb hkeeps)
    · exact .inr (.left hstrays)
  | binary left .and right, v, _, h | binary left .or right, v, _, h | binary left .equal right, v, _, h
  | binary left .notEqual right, v, _, h | binary left (.compare _) right, v, _, h =>
    .inl (conforms_of_ne_arithmetic h nofun)

/-- The age of a user counted from next year, backwards. -/
theorem conforms_type_or_strays_age :
    let user : Expr := .parameter ⟨"w", "WebUser"⟩
    let age : Expr := .member user ⟨"age", .named "WebUser", .int64⟩
    let e : Expr := .unary .negate (.binary age (.arithmetic .add) (.constant (.int32 1)))
    let mapping : DocumentMapping := {}
    let scope := Document.scope mapping.toMapping { source := some (.object [("age", .integer 41)]) }
    scope.IsTyped ∧ scope.TypesMembers e.nodes ∧ e.eval scope = .ok (.int64 (-42)) ∧ ¬ e.Strays scope ∧
      (Value.int64 (-42)).Conforms e.type := by
  intro user age e mapping scope
  have hscope : scope.IsTyped := Document.isTyped_scope mapping _
  have hage : age.eval scope = .ok (.int64 41) := by cbv
  have hmembers : scope.TypesMembers e.nodes := by
    intro target m hm v hv
    simp only [e, age, user, nodes, List.nil_append, List.cons_append, List.mem_cons, reduceCtorEq,
      member.injEq, false_or, or_false, List.not_mem_nil] at hm
    obtain ⟨rfl, rfl⟩ := hm
    cases hage.symm.trans hv
    exact .scalar rfl rfl
  have hvalue : e.eval scope = .ok (.int64 (-42)) := by cbv
  have hstays : ¬ e.Strays scope := by
    intro hstrays
    simp only [e, age] at hstrays
    cases hstrays with
    | negate hstrays =>
      cases hstrays with
      | right hone hkeeps =>
        cases hone
        cases hkeeps
      | left hstrays => cases hstrays
  exact ⟨hscope, hmembers, hvalue, hstays, (conforms_type_or_strays hscope hmembers hvalue).resolve_right hstays⟩

/-- The sum of a narrow and a wide integer has the type of the narrow one, and null is not made a test by `not`. -/
theorem not_conforms_type_of_wide :
    let sum := binary (constant (.int32 1)) (.arithmetic .add) (constant (.int64 2))
    let negated := unary .not (constant .null)
    Scope.empty.IsTyped ∧ Scope.empty.TypesMembers sum.nodes ∧ sum.eval Scope.empty = .ok (.int64 3) ∧
      ¬ (Value.int64 3).Conforms sum.type ∧ Scope.empty.TypesMembers negated.nodes ∧
      negated.eval Scope.empty = .ok .null ∧ ¬ Value.null.Conforms negated.type := by
  intro sum negated
  refine ⟨Scope.isTyped_empty, ?_, by cbv, ?_, ?_, by cbv, ?_⟩
  · intro target m hm
    simp [sum, nodes] at hm
  · rw [Value.conforms_iff_admits rfl rfl]
    decide
  · intro target m hm
    simp [negated, nodes] at hm
  · rw [Value.conforms_null_iff]
    decide

end Expr

end DocumentSearch
