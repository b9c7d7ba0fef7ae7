import DocumentSearch.Proofs.Criteria.Predicate
import DocumentSearch.Proofs.Expr.Eval
import DocumentSearch.Proofs.Projection

/-!
# Compiled filters and their values

Where the fields have the values `ρ`, a compiled filter holds exactly where the predicate, read from these fields, is
true (`holds_eq_eval`).

A leaf is compared with the value of the subject that it was made from (`holds_ofEquality`, `holds_ofComparison`,
`holds_ofHasItem`). The combinators are sound for `ρ` because no float takes part: loosely equal values are then
loosely equal to the same contents, and a range is the opposite of its negation where there is an order.
-/

namespace DocumentSearch

/-! ### Filters -/

namespace Expr

/-- The expression itself is no conversion, lambda or lookup, and no constant with a float in it. -/
def isDirect : Expr → Bool
  | convert .. | lambda .. | lookup .. => false
  | constant v => v.isFloatFree
  | _ => true

/-- One of two operands is a member and the other one a constant. -/
inductive IsPair : Expr → Expr → Prop
  | memberFirst {e : Expr} (v : Value) : e.isMember = true → IsPair e (constant v)
  | constantFirst {e : Expr} (v : Value) : e.isMember = true → IsPair (constant v) e

/-- Predicates made of constants, members, tests of a member against a constant, and the operators of logic. -/
inductive IsFilter : Expr → Prop
  | constant (b : Bool) : IsFilter (constant (.bool b))
  /-- A truth value, or the test whether an optional value is there. -/
  | member {e : Expr} : e.isMember = true → IsFilter e
  | and {a b : Expr} : IsFilter a → IsFilter b → IsFilter (binary a .and b)
  | or {a b : Expr} : IsFilter a → IsFilter b → IsFilter (binary a .or b)
  | not {e : Expr} : IsFilter e → IsFilter (unary .not e)
  | equal {a b : Expr} : IsPair a b → IsFilter (binary a .equal b)
  | notEqual {a b : Expr} : IsPair a b → IsFilter (binary a .notEqual b)
  | compare {a b : Expr} (comparison : Comparison) : IsPair a b → IsFilter (binary a (.compare comparison) b)
  | equals {a b : Expr} (owner : MethodOwner) : IsPair a b → IsFilter (call a ⟨"equals", owner⟩ [b])
  | staticEquals {a b : Expr} (owner : MethodOwner) : IsPair a b → IsFilter (staticCall ⟨"equals", owner⟩ [a, b])
  | hasItem {e : Expr} (values : List Value) : e.isMember = true →
      IsFilter (call (constant (.array values)) ⟨"contains", .sequence⟩ [e])
  | staticHasItem {e : Expr} (values : List Value) : e.isMember = true →
      IsFilter (staticCall ⟨"contains", .sequence⟩ [constant (.array values), e])

/-- Each order comparison in the expression is one of two values that have an order. -/
def ComparesOrdered (scope : Scope) (e : Expr) : Prop :=
  ∀ a comparison b, binary a (.compare comparison) b ∈ e.nodes → ∀ x y, a.eval scope = .ok x → b.eval scope = .ok y →
    (x.compare? y).isSome = true

private theorem forall_nodes_binary {Q : Expr → Prop} {a b : Expr} {operator : BinaryOperator}
    (h : ∀ s ∈ (binary a operator b).nodes, Q s) : (∀ s ∈ a.nodes, Q s) ∧ ∀ s ∈ b.nodes, Q s :=
  ⟨fun s hs => h s (by simp [nodes, hs]), fun s hs => h s (by simp [nodes, hs])⟩

private theorem ComparesOrdered.binary {scope : Scope} {a b : Expr} {operator : BinaryOperator}
    (h : ComparesOrdered scope (binary a operator b)) : a.ComparesOrdered scope ∧ b.ComparesOrdered scope :=
  ⟨fun x c y hs => h x c y (by simp [nodes, hs]), fun x c y hs => h x c y (by simp [nodes, hs])⟩

end Expr

/-! ### Leaves that read values -/

/-- Leaves of `I` say what the values `ρ` of the fields are. Leaves for patterns, for analysed content and with a hint
may say anything. -/
structure Interpretation.ReadsFrom (I : Interpretation) (ρ : String → Value) : Prop where
  term (field : String) (v : Value) (member : Option Member) : I.term field v member = (ρ field).looselyEqual v
  terms (field : String) (values : List Value) (member : Option Member) :
    I.terms field values none member = values.any (ρ field).looselyEqual
  range (field : String) (comparison : Comparison) (v : Value) (member : Option Member) :
    I.range field comparison v member = ((ρ field).compare? v).any comparison.holds
  present (field : String) : I.present field = !(ρ field).isNull
  missing (field : String) : I.missing field = (ρ field).isNull

/-- The leaves that read the values of the fields. No other leaf holds. -/
def Interpretation.ofFieldValues (ρ : String → Value) : Interpretation where
  term field v _ := (ρ field).looselyEqual v
  terms field values execution _ := execution.isNone && values.any (ρ field).looselyEqual
  range field comparison v _ := ((ρ field).compare? v).any comparison.holds
  present field := !(ρ field).isNull
  missing field := (ρ field).isNull
  pattern _ _ _ := false
  analyzed _ _ _ := false

theorem readsFrom_ofFieldValues (ρ : String → Value) : (Interpretation.ofFieldValues ρ).ReadsFrom ρ where
  term _ _ _ := rfl
  terms _ _ _ := rfl
  range _ _ _ _ := rfl
  present _ := rfl
  missing _ := rfl

/-- What leaves may carry for which the combinators are sound where the fields have the values `ρ`. -/
def LeafCondition.comparable (ρ : String → Value) : LeafCondition where
  equals _ v := v.isFloatFree = true
  ordered field v := ((ρ field).compare? v).isSome = true
  analyzed := False

namespace Criteria

theorem lawful_of_readsFrom {I : Interpretation} {ρ : String → Value} (hI : I.ReadsFrom ρ)
    (hρ : ∀ field, (ρ field).isScalar = true ∧ (ρ field).isFloatFree = true) :
    I.Lawful (fun field v => (ρ field).looselyEqual v) (.comparable ρ) where
  congr hv hw h := Value.looselyEqual_congr (hρ _).1 (hρ _).2 hv hw h
  term member _ := hI.term _ _ member
  analyzed _ h := h.elim
  terms member _ := hI.terms _ _ member
  range {field v} comparison member h := by
    rw [hI.range, hI.range]
    obtain ⟨o, ho⟩ := Option.isSome_iff_exists.1 h
    rw [ho, Option.any_some, Option.any_some, comparison.holds_negate]
  missing field _ := by rw [hI.missing, hI.present, Bool.not_not]

end Criteria

/-- A mapping without analysed text, and leaves and lookups that all read the values `ρ` of the fields. -/
structure FieldValues (ρ : String → Value) (mapping : DocumentMapping) (I : Interpretation) (scope : Scope) : Prop where
  /-- Fields hold null or one of the scalars that are not floats. -/
  scalar (field : String) : (ρ field).isScalar = true
  floatFree (field : String) : (ρ field).isFloatFree = true
  notText (field : String) : mapping.fieldTypes.get? field ≠ some "text"
  leaves : I.ReadsFrom ρ
  lookups : scope.Reads ρ

namespace FieldValues

open Criteria

variable {mapping : DocumentMapping} {source : String} {I : Interpretation} {ρ : String → Value} {scope : Scope}
  {c : Criteria}

theorem lawful (hv : FieldValues ρ mapping I scope) :
    I.Lawful (fun field v => (ρ field).looselyEqual v) (.comparable ρ) :=
  lawful_of_readsFrom hv.leaves fun field => ⟨hv.scalar field, hv.floatFree field⟩

/-! ### Tests of one member -/

private theorem isConversion_of_isDirect {target : Expr} {m : Member}
    (h : ∀ s ∈ (Expr.member target m).nodes, s.isDirect = true) : target.isConversion = false := by
  have htarget : target.isDirect = true := h target (by simp [Expr.nodes, Expr.mem_nodes_self])
  cases target <;> first | rfl | cases htarget

/-- The test whether an optional value is there, with a lookup in place of its target. -/
private theorem eval_hasValue (hv : FieldValues ρ mapping I scope) {target r : Expr} {m : Member} {field : String}
    (hdirect : ∀ s ∈ (Expr.member target m).nodes, s.isDirect = true) (hm : m.isHasValue = true)
    (hfield : mapping.toMapping.withReserved.fieldName? source target = some field)
    (hr : (Expr.member target m).withLookups mapping.toMapping.withReserved source = .ok r) :
    r.eval scope = .ok (.bool !(ρ field).isNull) := by
  have ht := DocumentMapping.isMember_of_fieldName? (isConversion_of_isDirect hdirect) hfield
  exact Expr.eval_withLookups_hasValue hv.lookups hm ht (DocumentMapping.fieldName?_of_isHasValue rfl rfl hm) hfield hr

/-- The subject of an equality has a value, and the criterion says whether this is loosely equal to the constant. -/
private theorem holds_equalityOf (hv : FieldValues ρ mapping I scope) {p : Pairing}
    (he : p.subject.isMember = true) (hdirect : ∀ s ∈ p.subject.nodes, s.isDirect = true)
    (hfree : p.constant.isFloatFree = true) (h : equalityOf mapping.toMapping.withReserved source p = .ok c) :
    ∃ x : Value, x.isScalar = true ∧ x.isFloatFree = true ∧
      (∀ r, p.subject.withLookups mapping.toMapping.withReserved source = .ok r → r.eval scope = .ok x) ∧
      c.Leaves (.comparable ρ) ∧ c.holds I = x.looselyEqual p.constant := by
  -- a test of presence, a static one, null, a value, and a value in a field of text
  rcases equalityOf_cases h with ⟨b, target, m, field, hb, hm, hvalue, hfield, -, rfl⟩ |
    ⟨field, hfield, -, ⟨m, hm, hvalue, -⟩ | ⟨hnull, rfl⟩ | ⟨-, -, rfl⟩ | ⟨htext, -⟩⟩
  · have hsubject := Expr.eq_member_of_member? he hm
    rw [hsubject] at hdirect ⊢
    refine ⟨.bool !(ρ field).isNull, rfl, rfl, fun r hr => eval_hasValue hv hdirect hvalue hfield hr, ?_, ?_⟩
    · cases b <;> trivial
    · rw [hb, Value.bool_looselyEqual]
      cases b <;> simp [holds, hv.leaves.present, hv.leaves.missing]
  · rw [DocumentMapping.fieldName?_of_isHasValue he hm hvalue] at hfield
    cases hfield
  · refine ⟨ρ field, hv.scalar field, hv.floatFree field, fun r hr => ?_, trivial, ?_⟩
    · exact Expr.eval_withLookups_of_fieldName? hv.lookups he hfield hr
    · rw [hnull, Value.looselyEqual_null, holds, hv.leaves.missing]
  · refine ⟨ρ field, hv.scalar field, hv.floatFree field, fun r hr => ?_, ⟨trivial, hfree⟩, ?_⟩
    · exact Expr.eval_withLookups_of_fieldName? hv.lookups he hfield hr
    · rw [holds, hv.leaves.term]
  · exact absurd htext (hv.notText field)

/-- The constant of a pair and what it is compared with. -/
private theorem pairing_of_isPair {a b : Expr} (h : a.IsPair b) :
    ∃ e v, e.isMember = true ∧ ((a = e ∧ b = .constant v ∧ Pairing.of? a b = some ⟨v, e, false⟩) ∨
      (a = .constant v ∧ b = e ∧ Pairing.of? a b = some ⟨v, e, true⟩)) := by
  cases h with
  | memberFirst v he => 
    refine ⟨a, v, he, .inl ⟨rfl, rfl, ?_⟩⟩
    cases a <;> cases he <;> rfl
  | constantFirst v he =>
    refine ⟨b, v, he, .inr ⟨rfl, rfl, ?_⟩⟩
    cases b <;> cases he <;> rfl

/-- Both operands of an equality have values, and the criterion says whether these are loosely equal. -/
private theorem holds_ofEquality (hv : FieldValues ρ mapping I scope) {a b a' b' : Expr} (hpair : a.IsPair b)
    (ha : ∀ s ∈ a.nodes, s.isDirect = true) (hb : ∀ s ∈ b.nodes, s.isDirect = true)
    (h : ofEquality mapping.toMapping.withReserved source a b = .ok c)
    (ha' : a.withLookups mapping.toMapping.withReserved source = .ok a')
    (hb' : b.withLookups mapping.toMapping.withReserved source = .ok b') :
    c.Leaves (.comparable ρ) ∧ ∃ x y : Value, a'.eval scope = .ok x ∧ b'.eval scope = .ok y ∧
      c.holds I = x.looselyEqual y := by
  obtain ⟨p, hp, h⟩ := ofEquality_eq_ok.1 h
  obtain ⟨e, v, he, ⟨rfl, rfl, hpairing⟩ | ⟨rfl, rfl, hpairing⟩⟩ := pairing_of_isPair hpair
  · cases hpairing.symm.trans hp
    cases hb'
    have hfree : v.isFloatFree = true := hb _ (Expr.mem_nodes_self _)
    obtain ⟨x, _, _, hx, hleaves, hholds⟩ := holds_equalityOf hv he ha hfree h
    exact ⟨hleaves, x, v, hx _ ha', by rw [Expr.eval], hholds⟩
  · cases hpairing.symm.trans hp
    cases ha'
    have hfree : v.isFloatFree = true := ha _ (Expr.mem_nodes_self _)
    obtain ⟨x, hscalar, hx, heval, hleaves, hholds⟩ := holds_equalityOf hv he hb hfree h
    exact ⟨hleaves, v, x, by rw [Expr.eval], heval _ hb', hholds.trans (Value.looselyEqual_comm hscalar hx hfree).symm⟩

/-- Where the operands of an order comparison have an order, it comes out as the criterion says. -/
private theorem holds_ofComparison (hv : FieldValues ρ mapping I scope) {comparison : Comparison} {a b a' b' : Expr}
    (hpair : a.IsPair b) (ha : ∀ s ∈ a.nodes, s.isDirect = true) (hb : ∀ s ∈ b.nodes, s.isDirect = true)
    (h : ofComparison mapping.toMapping.withReserved source comparison a b = .ok c)
    (ha' : a.withLookups mapping.toMapping.withReserved source = .ok a')
    (hb' : b.withLookups mapping.toMapping.withReserved source = .ok b')
    (hordered : ∀ x y, a'.eval scope = .ok x → b'.eval scope = .ok y → (x.compare? y).isSome = true) :
    c.Leaves (.comparable ρ) ∧ ∃ x y : Value, a'.eval scope = .ok x ∧ b'.eval scope = .ok y ∧
      x.applyComparison comparison y = .ok (.bool (c.holds I)) := by
  obtain ⟨p, field, hp, -, hfield, -, rfl⟩ := ofComparison_cases h
  obtain ⟨e, v, he, ⟨rfl, rfl, hpairing⟩ | ⟨rfl, rfl, hpairing⟩⟩ := pairing_of_isPair hpair
  · cases hpairing.symm.trans hp
    cases hb'
    have hx := Expr.eval_withLookups_of_fieldName? hv.lookups he hfield ha'
    have hy : (Expr.constant v).eval scope = .ok v := by rw [Expr.eval]
    have hsome := hordered _ _ hx hy
    obtain ⟨o, ho⟩ := Option.isSome_iff_exists.1 hsome
    refine ⟨⟨trivial, hsome⟩, ρ field, v, hx, hy, ?_⟩
    rw [Value.applyComparison_of_compare? ho, holds, hv.leaves.range, ho]
    rfl
  · cases hpairing.symm.trans hp
    cases ha'
    have hx : (Expr.constant v).eval scope = .ok v := by rw [Expr.eval]
    have hy := Expr.eval_withLookups_of_fieldName? hv.lookups he hfield hb'
    have hfree : v.isFloatFree = true := ha _ (Expr.mem_nodes_self _)
    obtain ⟨o, ho⟩ := Option.isSome_iff_exists.1 (hordered _ _ hx hy)
    -- the range is one of the field, and the comparison one of the constant
    have hswap := Value.compare?_swap hfree (hv.floatFree field)
    rw [ho, Option.map_some] at hswap
    have hsome : ((ρ field).compare? v).isSome = true := by rw [hswap, Option.isSome_some]
    refine ⟨⟨trivial, hsome⟩, v, ρ field, hx, hy, ?_⟩
    rw [Value.applyComparison_of_compare? ho, holds, hv.leaves.range, hswap, if_pos rfl, Option.any_some,
      comparison.holds_flip, Ordering.swap_swap]

/-- A member is looked for in a constant array. -/
private theorem holds_ofHasItem (hv : FieldValues ρ mapping I scope) {values : List Value} {e e' : Expr}
    (he : e.isMember = true) (hfree : (Value.array values).isFloatFree = true)
    (h : ofHasItem mapping.toMapping.withReserved source (.constant (.array values)) e = .ok c)
    (he' : e.withLookups mapping.toMapping.withReserved source = .ok e') :
    c.Leaves (.comparable ρ) ∧ ∃ x, e'.eval scope = .ok x ∧
      (Value.array values).hasItem x = .ok (.bool (c.holds I)) := by
  have hfrees := Value.itemsAreFloatFree_iff.1 hfree
  have hconstant : e.constant? = none := by cases e <;> cases he <;> rfl
  rw [ofHasItem_of_constant hconstant] at h
  obtain ⟨values', field, hvalues, hfield, -, hc⟩ := ofValues_cases h
  cases hvalues
  have hx := Expr.eval_withLookups_of_fieldName? hv.lookups he hfield he'
  have hholds : (values.any fun v => v.looselyEqual (ρ field)) = values.any (ρ field).looselyEqual := by
    rw [Bool.eq_iff_iff, List.any_eq_true, List.any_eq_true]
    refine exists_congr fun v => and_congr_right fun hmem => ?_
    rw [Value.looselyEqual_comm (hv.scalar field) (hv.floatFree field) (hfrees v hmem)]
  rcases hc with ⟨v, rfl, rfl⟩ | rfl
  · refine ⟨⟨trivial, hfrees v (by simp)⟩, ρ field, hx, ?_⟩
    rw [Value.hasItem, hholds, holds, hv.leaves.term]
    simp
  · refine ⟨⟨trivial, hfrees, by simp⟩, ρ field, hx, ?_⟩
    rw [Value.hasItem, hholds, holds, hv.leaves.terms]

/-! ### Predicates -/

private theorem core_of_isFilter {e : Expr} (h : e.IsFilter) : e.core = e := by
  cases h with
  | member he => cases e <;> cases he <;> rfl
  | _ => rfl

private theorem holds_joined (hv : FieldValues ρ mapping I scope) {cs : List Criteria}
    (h : ∀ c ∈ cs, c.Leaves (.comparable ρ)) : (joined cs).holds I = cs.any (holds I) := by
  unfold joined
  split
  · simp
  · exact holds_or hv.lawful h

/-- What is known of the clauses `cs` of a predicate that became `e` with lookups in place of its members. -/
private def Says (ρ : String → Value) (I : Interpretation) (scope : Scope) (e : Expr) (cs : List Criteria) : Prop :=
  (∀ c ∈ cs, c.Leaves (.comparable ρ)) ∧ ∀ b, e.eval scope = .ok (.bool b) → cs.any (holds I) = b

/-- If the predicate compiles, its clauses say what it says with lookups in place of its members. -/
private def Sound (ρ : String → Value) (mapping : DocumentMapping) (source : String) (I : Interpretation)
    (scope : Scope) (e : Expr) : Prop :=
  ∀ {cs : List Criteria} {e' : Expr}, (∀ s ∈ e.nodes, s.isDirect = true) →
    alternatives mapping.toMapping.withReserved source e e = .ok cs →
    e.withLookups mapping.toMapping.withReserved source = .ok e' → e'.ComparesOrdered scope → Says ρ I scope e' cs

private theorem says_singleton {e : Expr} {c : Criteria} (hleaves : c.Leaves (.comparable ρ))
    (h : ∀ b, e.eval scope = .ok (.bool b) → c.holds I = b) : Says ρ I scope e [c] :=
  ⟨by simpa using hleaves, fun b hb => by simpa using h b hb⟩

private theorem sound_constant (b : Bool) : Sound ρ mapping source I scope (.constant (.bool b)) := by
  intro cs e' _ h he' _
  cases h
  cases he'
  refine says_singleton (by cases b <;> trivial) fun result hresult => ?_
  rw [Expr.eval] at hresult
  cases hresult
  cases b <;> rfl

private theorem sound_and (hv : FieldValues ρ mapping I scope) {a b : Expr} (ha : Sound ρ mapping source I scope a)
    (hb : Sound ρ mapping source I scope b) : Sound ρ mapping source I scope (.binary a .and b) := by
  intro cs e' hdirect h he' hordered
  rw [alternatives] at h
  obtain ⟨left, hleft, h⟩ := bind_eq_ok.1 h
  obtain ⟨right, hright, rfl⟩ := bind_singleton_eq_ok.1 h
  obtain ⟨a', ha', he'⟩ := bind_eq_ok.1 he'
  obtain ⟨b', hb', he'⟩ := bind_eq_ok.1 he'
  cases he'
  obtain ⟨hda, hdb⟩ := Expr.forall_nodes_binary hdirect
  have hsaysLeft := ha hda hleft ha' hordered.binary.1
  have hsaysRight := hb hdb hright hb' hordered.binary.2
  have hleaves : ∀ c ∈ [joined left, joined right], c.Leaves (.comparable ρ) := by
    simp [(kept_leaves _).joined hsaysLeft.1, (kept_leaves _).joined hsaysRight.1]
  refine says_singleton (leaves_and hleaves) fun result heval => ?_
  rw [holds_and hv.lawful hleaves, List.all_cons, List.all_cons, List.all_nil, Bool.and_true,
    holds_joined hv hsaysLeft.1, holds_joined hv hsaysRight.1]
  -- where the left operand is false the right one may have no value, and its clauses may hold or not
  rcases Expr.eval_and_eq_ok heval with ⟨hfalse, rfl⟩ | ⟨htrue, hresult⟩
  · rw [hsaysLeft.2 _ hfalse, Bool.false_and]
  · rw [hsaysLeft.2 _ htrue, hsaysRight.2 _ hresult, Bool.true_and]

private theorem sound_or {a b : Expr} (hfa : a.IsFilter) (hfb : b.IsFilter) (ha : Sound ρ mapping source I scope a)
    (hb : Sound ρ mapping source I scope b) : Sound ρ mapping source I scope (.binary a .or b) := by
  intro cs e' hdirect h he' hordered
  rw [alternatives, core_of_isFilter hfa, core_of_isFilter hfb] at h
  obtain ⟨left, hleft, h⟩ := bind_eq_ok.1 h
  obtain ⟨right, hright, h⟩ := bind_eq_ok.1 h
  cases h
  obtain ⟨a', ha', he'⟩ := bind_eq_ok.1 he'
  obtain ⟨b', hb', he'⟩ := bind_eq_ok.1 he'
  cases he'
  obtain ⟨hda, hdb⟩ := Expr.forall_nodes_binary hdirect
  have hsaysLeft := ha hda hleft ha' hordered.binary.1
  have hsaysRight := hb hdb hright hb' hordered.binary.2
  refine ⟨List.forall_mem_append.2 ⟨hsaysLeft.1, hsaysRight.1⟩, fun result heval => ?_⟩
  rw [List.any_append]
  rcases Expr.eval_or_eq_ok heval with ⟨htrue, rfl⟩ | ⟨hfalse, hresult⟩
  · rw [hsaysLeft.2 _ htrue, Bool.true_or]
  · rw [hsaysLeft.2 _ hfalse, hsaysRight.2 _ hresult, Bool.false_or]

private theorem sound_not (hv : FieldValues ρ mapping I scope) {e : Expr} (he : Sound ρ mapping source I scope e) :
    Sound ρ mapping source I scope (.unary .not e) := by
  intro cs e' hdirect h he' hordered
  rw [alternatives] at h
  obtain ⟨clauses, hclauses, rfl⟩ := bind_singleton_eq_ok.1 h
  obtain ⟨operand, hoperand, he'⟩ := bind_eq_ok.1 he'
  cases he'
  have hsays := he (fun s hs => hdirect s (by simp [Expr.nodes, hs])) hclauses hoperand
    fun a comparison b hs => hordered a comparison b (by simp [Expr.nodes, hs])
  have hleaves := (kept_leaves _).joined hsays.1
  refine says_singleton (leaves_not hleaves) fun result heval => ?_
  rw [holds_not hv.lawful hleaves, holds_joined hv hsays.1, hsays.2 _ (Expr.eval_not_eq_ok heval), Bool.not_not]

/-- A member by itself is a truth value, or asks whether its target is there. -/
private theorem sound_member (hv : FieldValues ρ mapping I scope) {e : Expr} (he : e.isMember = true) :
    Sound ρ mapping source I scope e := by
  intro cs e' hdirect h he' _
  have htruth : ∀ {m : Member} {c : Criteria}, ofMember mapping.toMapping.withReserved source e m = .ok c →
      Says ρ I scope e' [c] := by
    intro m c hc
    obtain ⟨field, -, hfield, -, rfl⟩ := ofMember_cases hc
    refine says_singleton ⟨trivial, rfl⟩ fun b hb => ?_
    rw [Expr.eval_withLookups_of_fieldName? hv.lookups he hfield he'] at hb
    rw [holds, hv.leaves.term, Except.ok.inj hb, Value.bool_looselyEqual, beq_true]
  cases e <;> cases he
  case staticMember m =>
    rw [alternatives] at h
    obtain ⟨c, hc, rfl⟩ := bind_singleton_eq_ok.1 h
    exact htruth hc
  case member target m =>
    rw [alternatives] at h
    split at h
    · rename_i hvalue
      obtain ⟨field, hfield, h⟩ := bind_eq_ok.1 h
      obtain ⟨c, hc, rfl⟩ := bind_singleton_eq_ok.1 h
      obtain ⟨-, rfl⟩ := presence_eq_ok.1 (checked_eq_ok.1 hc)
      refine says_singleton trivial fun b hb => ?_
      rw [eval_hasValue hv hdirect hvalue (fieldOf_eq_ok.1 hfield) he'] at hb
      cases hb
      exact hv.leaves.present field
    · obtain ⟨c, hc, rfl⟩ := bind_singleton_eq_ok.1 h
      exact htruth hc

/-- An expression whose truth value says whether its operands have loosely equal values. -/
private theorem says_ofEquality (hv : FieldValues ρ mapping I scope) {a b a' b' e' : Expr} (hpair : a.IsPair b)
    (ha : ∀ s ∈ a.nodes, s.isDirect = true) (hb : ∀ s ∈ b.nodes, s.isDirect = true)
    (h : ofEquality mapping.toMapping.withReserved source a b = .ok c)
    (ha' : a.withLookups mapping.toMapping.withReserved source = .ok a')
    (hb' : b.withLookups mapping.toMapping.withReserved source = .ok b')
    (he' : ∀ {x y v : Value}, a'.eval scope = .ok x → b'.eval scope = .ok y → e'.eval scope = .ok v →
      v = .bool (x.looselyEqual y)) : Says ρ I scope e' [c] := by
  obtain ⟨hleaves, x, y, hx, hy, hholds⟩ := holds_ofEquality hv hpair ha hb h ha' hb'
  refine says_singleton hleaves fun result heval => ?_
  cases he' hx hy heval
  exact hholds

private theorem sound_equal (hv : FieldValues ρ mapping I scope) {a b : Expr} (hpair : a.IsPair b) :
    Sound ρ mapping source I scope (.binary a .equal b) := by
  intro cs e' hdirect h he' _
  rw [alternatives] at h
  obtain ⟨c, hc, rfl⟩ := bind_singleton_eq_ok.1 h
  obtain ⟨a', ha', he'⟩ := bind_eq_ok.1 he'
  obtain ⟨b', hb', he'⟩ := bind_eq_ok.1 he'
  cases he'
  obtain ⟨hda, hdb⟩ := Expr.forall_nodes_binary hdirect
  refine says_ofEquality hv hpair hda hdb hc ha' hb' fun hx hy heval => ?_
  rw [Expr.eval, hx, hy] at heval
  cases heval
  rfl

private theorem sound_notEqual (hv : FieldValues ρ mapping I scope) {a b : Expr} (hpair : a.IsPair b) :
    Sound ρ mapping source I scope (.binary a .notEqual b) := by
  intro cs e' hdirect h he' _
  rw [alternatives] at h
  obtain ⟨c, hc, rfl⟩ := bind_singleton_eq_ok.1 h
  obtain ⟨a', ha', he'⟩ := bind_eq_ok.1 he'
  obtain ⟨b', hb', he'⟩ := bind_eq_ok.1 he'
  cases he'
  obtain ⟨hda, hdb⟩ := Expr.forall_nodes_binary hdirect
  obtain ⟨hleaves, x, y, hx, hy, hholds⟩ := holds_ofEquality hv hpair hda hdb hc ha' hb'
  refine says_singleton (leaves_not hleaves) fun result heval => ?_
  rw [Expr.eval, hx, hy] at heval
  cases heval
  rw [holds_not hv.lawful hleaves, hholds]

private theorem sound_compare (hv : FieldValues ρ mapping I scope) {a b : Expr} (comparison : Comparison)
    (hpair : a.IsPair b) : Sound ρ mapping source I scope (.binary a (.compare comparison) b) := by
  intro cs e' hdirect h he' hordered
  rw [alternatives] at h
  obtain ⟨c, hc, rfl⟩ := bind_singleton_eq_ok.1 h
  obtain ⟨a', ha', he'⟩ := bind_eq_ok.1 he'
  obtain ⟨b', hb', he'⟩ := bind_eq_ok.1 he'
  cases he'
  obtain ⟨hda, hdb⟩ := Expr.forall_nodes_binary hdirect
  have hsome := hordered a' comparison b' (Expr.mem_nodes_self _)
  obtain ⟨hleaves, x, y, hx, hy, hholds⟩ := holds_ofComparison hv hpair hda hdb hc ha' hb' hsome
  refine says_singleton hleaves fun result heval => ?_
  rw [Expr.eval, hx, hy] at heval
  cases hholds.symm.trans heval
  rfl

private theorem sound_equals (hv : FieldValues ρ mapping I scope) {a b : Expr} (owner : MethodOwner)
    (hpair : a.IsPair b) : Sound ρ mapping source I scope (.call a ⟨"equals", owner⟩ [b]) := by
  intro cs e' hdirect h he' _
  rw [alternatives] at h
  obtain ⟨c, hc, rfl⟩ := bind_singleton_eq_ok.1 h
  obtain ⟨a', ha', he'⟩ := bind_eq_ok.1 he'
  obtain ⟨args', hargs', he'⟩ := bind_eq_ok.1 he'
  obtain ⟨b', hb', hargs'⟩ := bind_eq_ok.1 hargs'
  cases hargs'
  cases he'
  have hda : ∀ s ∈ a.nodes, s.isDirect = true := fun s hs => hdirect s (by simp [Expr.nodes, hs])
  have hdb : ∀ s ∈ b.nodes, s.isDirect = true := fun s hs => hdirect s (by simp [Expr.nodes, Expr.nodesOfAll, hs])
  refine says_ofEquality hv hpair hda hdb (ofCall_equals_eq_ok hc) ha' hb' fun hx hy heval => ?_
  rw [Expr.eval, hx, Expr.evalAll_singleton hy] at heval
  exact Value.invoke_equals_eq_ok heval

private theorem sound_staticEquals (hv : FieldValues ρ mapping I scope) {a b : Expr} (owner : MethodOwner)
    (hpair : a.IsPair b) : Sound ρ mapping source I scope (.staticCall ⟨"equals", owner⟩ [a, b]) := by
  intro cs e' hdirect h he' _
  rw [alternatives] at h
  obtain ⟨c, hc, rfl⟩ := bind_singleton_eq_ok.1 h
  obtain ⟨args', hargs', he'⟩ := bind_eq_ok.1 he'
  obtain ⟨a', ha', hargs'⟩ := bind_eq_ok.1 hargs'
  obtain ⟨rest', hrest', hargs'⟩ := bind_eq_ok.1 hargs'
  obtain ⟨b', hb', hrest'⟩ := bind_eq_ok.1 hrest'
  cases hrest'
  cases hargs'
  cases he'
  have hda : ∀ s ∈ a.nodes, s.isDirect = true := fun s hs => hdirect s (by simp [Expr.nodes, Expr.nodesOfAll, hs])
  have hdb : ∀ s ∈ b.nodes, s.isDirect = true := fun s hs => hdirect s (by simp [Expr.nodes, Expr.nodesOfAll, hs])
  refine says_ofEquality hv hpair hda hdb (ofCall_staticEquals_eq_ok hc) ha' hb' fun hx hy heval => ?_
  rw [Expr.eval, Expr.evalAll_pair hx hy] at heval
  exact Value.invoke_staticEquals_eq_ok heval

private theorem sound_hasItem (hv : FieldValues ρ mapping I scope) (values : List Value) {e : Expr}
    (he : e.isMember = true) :
    Sound ρ mapping source I scope (.call (.constant (.array values)) ⟨"contains", .sequence⟩ [e]) := by
  intro cs p' hdirect h hp' _
  rw [alternatives] at h
  obtain ⟨c, hc, rfl⟩ := bind_singleton_eq_ok.1 h
  obtain ⟨items', hitems', hp'⟩ := bind_eq_ok.1 hp'
  obtain ⟨args', hargs', hp'⟩ := bind_eq_ok.1 hp'
  obtain ⟨e', he', hargs'⟩ := bind_eq_ok.1 hargs'
  cases hitems'
  cases hargs'
  cases hp'
  have hfree : (Value.array values).isFloatFree = true :=
    hdirect (.constant (.array values)) (by simp [Expr.nodes])
  obtain ⟨hleaves, x, hx, hholds⟩ := holds_ofHasItem hv he hfree hc he'
  refine says_singleton hleaves fun result heval => ?_
  rw [Expr.eval, Expr.eval, Expr.evalAll_singleton hx] at heval
  cases hholds.symm.trans heval
  rfl

private theorem sound_staticHasItem (hv : FieldValues ρ mapping I scope) (values : List Value) {e : Expr}
    (he : e.isMember = true) :
    Sound ρ mapping source I scope (.staticCall ⟨"contains", .sequence⟩ [.constant (.array values), e]) := by
  intro cs p' hdirect h hp' _
  rw [alternatives] at h
  obtain ⟨c, hc, rfl⟩ := bind_singleton_eq_ok.1 h
  obtain ⟨args', hargs', hp'⟩ := bind_eq_ok.1 hp'
  obtain ⟨items', hitems', hargs'⟩ := bind_eq_ok.1 hargs'
  obtain ⟨rest', hrest', hargs'⟩ := bind_eq_ok.1 hargs'
  obtain ⟨e', he', hrest'⟩ := bind_eq_ok.1 hrest'
  cases hitems'
  cases hrest'
  cases hargs'
  cases hp'
  have hfree : (Value.array values).isFloatFree = true :=
    hdirect (.constant (.array values)) (by simp [Expr.nodes, Expr.nodesOfAll])
  obtain ⟨hleaves, x, hx, hholds⟩ := holds_ofHasItem hv he hfree hc he'
  refine says_singleton hleaves fun result heval => ?_
  rw [Expr.eval, Expr.evalAll_pair (by rw [Expr.eval]) hx] at heval
  cases hholds.symm.trans heval
  rfl

private theorem sound_of_isFilter (hv : FieldValues ρ mapping I scope) {p : Expr} (hp : p.IsFilter) :
    Sound ρ mapping source I scope p := by
  induction hp with
  | constant b => exact sound_constant b
  | member he => exact sound_member hv he
  | and _ _ iha ihb => exact sound_and hv iha ihb
  | or ha hb iha ihb => exact sound_or ha hb iha ihb
  | not _ ih => exact sound_not hv ih
  | equal hpair => exact sound_equal hv hpair
  | notEqual hpair => exact sound_notEqual hv hpair
  | compare comparison hpair => exact sound_compare hv comparison hpair
  | equals owner hpair => exact sound_equals hv owner hpair
  | staticEquals owner hpair => exact sound_staticEquals hv owner hpair
  | hasItem values he => exact sound_hasItem hv values he
  | staticHasItem values he => exact sound_staticHasItem hv values he

private theorem body_of_isFilter {e : Expr} (h : e.IsFilter) : e.body = e := by
  cases h with
  | member he => cases e <;> cases he <;> rfl
  | _ => rfl

/-- A compiled filter holds where the fields have the values `ρ` exactly where the filter, with lookups of the fields
in place of its members, is true. -/
theorem holds_eq_eval (hv : FieldValues ρ mapping I scope) {p : Expr} {r : Projection} {b : Bool} (hp : p.IsFilter)
    (hdirect : ∀ s ∈ p.nodes, s.isDirect = true)
    (hc : ofPredicate mapping.toMapping.withReserved source p = .ok c)
    (hr : Projection.ofExpr mapping.toMapping source p = .ok r) (hordered : r.body.ComparesOrdered scope)
    (heval : r.body.eval scope = .ok (.bool b)) : c.holds I = b := by
  obtain ⟨cs, hcs, hc⟩ := bind_eq_ok.1 hc
  cases hc
  obtain ⟨p', hp', hr⟩ := bind_eq_ok.1 hr
  cases hr
  rw [body_of_isFilter hp] at hcs hp'
  obtain ⟨hleaves, hholds⟩ := sound_of_isFilter hv hp hdirect hcs hp' hordered
  rw [holds_joined hv hleaves, hholds b heval]

/-- A user of age 30 and without a name is found by age and by name. -/
theorem holds_eq_eval_user :
    let age := Expr.member (.parameter ⟨"w", "WebUser"⟩) ⟨"age", .named "WebUser", .int32⟩
    let name := Expr.member (.parameter ⟨"w", "WebUser"⟩) ⟨"name", .named "WebUser", .string⟩
    let filter : Expr := .binary (.binary (.constant (.int32 21)) (.compare .lessOrEqual) age) .and
      (.unary .not (.binary name .equal (.constant (.string "Ada"))))
    let mapping : DocumentMapping := { options := .plain }
    let ρ : String → Value := fun field => if field = "age" then .int64 30 else .null
    let scope : Scope := { parameter := Scope.empty.parameter, lookup := fun key _ => .ok (ρ key) }
    ∃ c r, ofPredicate mapping.toMapping.withReserved "WebUser" filter = .ok c ∧
      Projection.ofExpr mapping.toMapping "WebUser" filter = .ok r ∧ r.body.ComparesOrdered scope ∧
      r.body.eval scope = .ok (.bool true) ∧ c.holds (.ofFieldValues ρ) = true := by
  intro age name filter mapping ρ scope
  have hv : FieldValues ρ mapping (.ofFieldValues ρ) scope := by
    refine ⟨fun field => ?_, fun field => ?_, nofun, readsFrom_ofFieldValues ρ, fun _ _ => rfl⟩ <;>
      by_cases h : field = "age" <;> simp [ρ, h, Value.isScalar, Value.isFloatFree]
  have hfilter : filter.IsFilter := .and (.compare _ (.constantFirst _ rfl)) (.not (.equal (.memberFirst _ rfl)))
  have hdirect : ∀ s ∈ filter.nodes, s.isDirect = true := by decide
  obtain ⟨c, hc⟩ : ∃ c, ofPredicate mapping.toMapping.withReserved "WebUser" filter = .ok c := ⟨_, rfl⟩
  have hr : Projection.ofExpr mapping.toMapping "WebUser" filter = .ok
      ⟨.binary (.binary (.constant (.int32 21)) (.compare .lessOrEqual) (.lookup "age" .int32)) .and
        (.unary .not (.binary (.lookup "name" .string) .equal (.constant (.string "Ada")))), ["age", "name"]⟩ := rfl
  have hordered : Expr.ComparesOrdered scope (.binary
      (.binary (.constant (.int32 21)) (.compare .lessOrEqual) (.lookup "age" .int32)) .and
      (.unary .not (.binary (.lookup "name" .string) .equal (.constant (.string "Ada"))))) := by
    intro a comparison b h x y hx hy
    simp [Expr.nodes] at h
    obtain ⟨rfl, -, rfl⟩ := h
    cases hx
    cases hy
    rfl
  exact ⟨c, _, hc, hr, hordered, rfl, holds_eq_eval hv hfilter hdirect hc hr hordered rfl⟩

end FieldValues

end DocumentSearch
