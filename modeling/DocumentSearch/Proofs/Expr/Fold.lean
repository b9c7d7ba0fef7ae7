import DocumentSearch.Expr.Fold
import DocumentSearch.Proofs.Expr.Parts
import DocumentSearch.Proofs.Expr.Scope
import DocumentSearch.Proofs.Steps

/-!
# Folding keeps values

Folding an expression changes its value in no scope (`eval_of_fold`), and it fails with the error of the first of the
largest local parts that has no value (`error?_fold`).

A local expression has the same value in every scope (`eval_of_isLocal`); an expression of another kind is put
together from its folded parts, and its value from theirs. What holds whatever the form of an expression is follows
from `folded_cases`, which says what becomes of an expression in terms of its form and its parts.
-/

namespace DocumentSearch.Expr

/-! ### Local parts -/

/-- The form of the expression itself, whatever its parts are, keeps it from being computed without a document. -/
def isExcluded : Expr → Bool
  | parameter _ | lambda .. | lookup .. => true
  | member _ m | staticMember m => !m.isLocal
  | call _ m _ | staticCall m _ => !m.isLocal
  | constant _ | unary .. | convert .. | binary .. | record .. => false

mutual

/-- The largest local parts of an expression, in the order in which they are evaluated. -/
def localParts (e : Expr) : List Expr :=
  if e.isLocal then
    [e]
  else
    match e with
    | parameter _ | constant _ | staticMember _ | lookup .. => []
    | member target _ => localParts target
    | call target _ args => localParts target ++ localPartsOfAll args
    | staticCall _ args => localPartsOfAll args
    | lambda _ body => localParts body
    | unary _ operand | convert operand _ => localParts operand
    | binary left _ right => localParts left ++ localParts right
    | record _ members => localPartsOfMembers members

/-- `localParts` of all expressions. -/
def localPartsOfAll : List Expr → List Expr
  | [] => []
  | e :: rest => localParts e ++ localPartsOfAll rest

/-- `localParts` of all named expressions. -/
def localPartsOfMembers : List (String × Expr) → List Expr
  | [] => []
  | (_, e) :: rest => localParts e ++ localPartsOfMembers rest

end

mutual

theorem isLocal_iff : ∀ {e : Expr}, e.isLocal = true ↔ ∀ s ∈ e.nodes, s.isExcluded = false
  | parameter _ | constant _ | staticMember _ | lookup .. => by simp [isLocal, nodes, isExcluded]
  | member target m => by
    simp [isLocal, nodes, isExcluded, isLocal_iff (e := target)]
  | call target m args => by
    simp [isLocal, nodes, isExcluded, isLocal_iff (e := target), areLocal_iff args, or_imp, forall_and,
      and_assoc]
  | staticCall m args => by simp [isLocal, nodes, isExcluded, areLocal_iff args]
  | lambda .. => by simp [isLocal, nodes, isExcluded]
  | unary _ operand | convert operand _ => by simp [isLocal, nodes, isExcluded, isLocal_iff (e := operand)]
  | binary left _ right => by
    simp [isLocal, nodes, isExcluded, isLocal_iff (e := left), isLocal_iff (e := right), or_imp, forall_and]
  | record _ members => by simp [isLocal, nodes, isExcluded, membersAreLocal_iff members]

private theorem areLocal_iff : ∀ es : List Expr, areLocal es = true ↔ ∀ s ∈ nodesOfAll es, s.isExcluded = false
  | [] => by simp [areLocal, nodesOfAll]
  | e :: rest => by
    simp [areLocal, nodesOfAll, isLocal_iff (e := e), areLocal_iff rest, or_imp, forall_and]

private theorem membersAreLocal_iff : ∀ es : List (String × Expr),
    membersAreLocal es = true ↔ ∀ s ∈ nodesOfMembers es, s.isExcluded = false
  | [] => by simp [membersAreLocal, nodesOfMembers]
  | (_, e) :: rest => by
    simp [membersAreLocal, nodesOfMembers, isLocal_iff (e := e), membersAreLocal_iff rest, or_imp, forall_and]

end

/-! ### Local expressions -/

/-- A local expression holds no parameter and no lookup, and so no scope has a say in its value. -/
theorem eval_of_isLocal (scope : Scope) {e : Expr} (h : e.isLocal = true) : e.eval scope = e.evaluate := by
  have hagree : scope.AgreeOn .empty e.nodes :=
    ⟨fun hp => absurd (isLocal_iff.1 h _ hp) (by simp [isExcluded]),
      fun hl => absurd (isLocal_iff.1 h _ hl) (by simp [isExcluded])⟩
  exact eval_congr hagree (List.Subset.refl _)

/-! ### Steps of folding -/

mutual

/-- How expressions are folded: a local one is computed, and any other one is put together from its folded parts. -/
inductive Folded : Expr → Expr → Prop
  | computed {e : Expr} {v : Value} : e.isLocal = true → e.evaluate = .ok v → Folded e (constant v)
  | kept {e : Expr} : e.isLocal = false → e.children = [] → Folded e e
  | member {target target' : Expr} {m : Member} : (member target m).isLocal = false → Folded target target' →
      Folded (member target m) (member target' m)
  | call {target target' : Expr} {m : Method} {args args' : List Expr} : (call target m args).isLocal = false →
      Folded target target' → FoldedAll args args' → Folded (call target m args) (call target' m args')
  | staticCall {m : Method} {args args' : List Expr} : (staticCall m args).isLocal = false → FoldedAll args args' →
      Folded (staticCall m args) (staticCall m args')
  | lambda {parameters : List Parameter} {body body' : Expr} : Folded body body' →
      Folded (lambda parameters body) (lambda parameters body')
  | unary {operator : UnaryOperator} {operand operand' : Expr} : operand.isLocal = false → Folded operand operand' →
      Folded (unary operator operand) (unary operator operand')
  | convert {operand operand' : Expr} {type : ValueType} : operand.isLocal = false → Folded operand operand' →
      Folded (convert operand type) (convert operand' type)
  | binary {left left' right right' : Expr} {operator : BinaryOperator} :
      (binary left operator right).isLocal = false → Folded left left' → Folded right right' →
      Folded (binary left operator right) (binary left' operator right')
  | record {typeName : String} {members members' : List (String × Expr)} :
      (record typeName members).isLocal = false → FoldedMembers members members' →
      Folded (record typeName members) (record typeName members')

/-- `Folded` for the expressions of two lists. -/
inductive FoldedAll : List Expr → List Expr → Prop
  | nil : FoldedAll [] []
  | cons {e e' : Expr} {rest rest' : List Expr} : Folded e e' → FoldedAll rest rest' →
      FoldedAll (e :: rest) (e' :: rest')

/-- `Folded` for the expressions of two lists with the same names. -/
inductive FoldedMembers : List (String × Expr) → List (String × Expr) → Prop
  | nil : FoldedMembers [] []
  | cons {name : String} {e e' : Expr} {rest rest' : List (String × Expr)} : Folded e e' →
      FoldedMembers rest rest' → FoldedMembers ((name, e) :: rest) ((name, e') :: rest')

end

private theorem computed_eq (e : Expr) : e.computed = e.evaluate.map constant := by
  cases e <;> rfl

/-- A local expression becomes the constant of its value. -/
theorem fold_of_isLocal {e : Expr} (h : e.isLocal = true) : fold e = e.evaluate.map constant := by
  rw [fold.eq_def, if_pos h, computed_eq]

mutual

theorem folded_of_fold {e e' : Expr} (h : fold e = .ok e') : Folded e e' := by
  by_cases hlocal : e.isLocal = true
  · rw [fold_of_isLocal hlocal, map_eq_ok] at h
    obtain ⟨v, hv, rfl⟩ := h
    exact .computed hlocal hv
  · rw [fold.eq_def, if_neg hlocal] at h
    rw [Bool.not_eq_true] at hlocal
    match e with
    | parameter _ | constant _ | staticMember _ | lookup .. =>
      cases h
      exact .kept hlocal rfl
    | member target m =>
      obtain ⟨target', ht, h⟩ := bind_eq_ok.1 h
      cases h
      exact .member hlocal (folded_of_fold ht)
    | call target m args =>
      obtain ⟨target', ht, h⟩ := bind_eq_ok.1 h
      obtain ⟨args', ha, h⟩ := bind_eq_ok.1 h
      cases h
      exact .call hlocal (folded_of_fold ht) (foldedAll_of_foldAll ha)
    | staticCall m args =>
      obtain ⟨args', ha, h⟩ := bind_eq_ok.1 h
      cases h
      exact .staticCall hlocal (foldedAll_of_foldAll ha)
    | lambda parameters body =>
      obtain ⟨body', hb, h⟩ := bind_eq_ok.1 h
      cases h
      exact .lambda (folded_of_fold hb)
    | unary operator operand =>
      obtain ⟨operand', ho, h⟩ := bind_eq_ok.1 h
      cases h
      exact .unary hlocal (folded_of_fold ho)
    | convert operand type =>
      obtain ⟨operand', ho, h⟩ := bind_eq_ok.1 h
      cases h
      exact .convert hlocal (folded_of_fold ho)
    | binary left operator right =>
      obtain ⟨left', hl, h⟩ := bind_eq_ok.1 h
      obtain ⟨right', hr, h⟩ := bind_eq_ok.1 h
      cases h
      exact .binary hlocal (folded_of_fold hl) (folded_of_fold hr)
    | record typeName members =>
      obtain ⟨members', hm, h⟩ := bind_eq_ok.1 h
      cases h
      exact .record hlocal (foldedMembers_of_foldMembers hm)

private theorem foldedAll_of_foldAll : ∀ {es es' : List Expr}, foldAll es = .ok es' → FoldedAll es es'
  | [], _, h => by
    cases h
    exact .nil
  | e :: rest, _, h => by
    rw [foldAll] at h
    obtain ⟨e', he, h⟩ := bind_eq_ok.1 h
    obtain ⟨rest', hrest, h⟩ := bind_eq_ok.1 h
    cases h
    exact .cons (folded_of_fold he) (foldedAll_of_foldAll hrest)

private theorem foldedMembers_of_foldMembers : ∀ {es es' : List (String × Expr)}, foldMembers es = .ok es' →
    FoldedMembers es es'
  | [], _, h => by
    cases h
    exact .nil
  | (name, e) :: rest, _, h => by
    rw [foldMembers] at h
    obtain ⟨e', he, h⟩ := bind_eq_ok.1 h
    obtain ⟨rest', hrest, h⟩ := bind_eq_ok.1 h
    cases h
    exact .cons (folded_of_fold he) (foldedMembers_of_foldMembers hrest)

end

private theorem forall₂_of_foldedAll : ∀ {es es' : List Expr}, FoldedAll es es' → List.Forall₂ Folded es es'
  | _, _, .nil => .nil
  | _, _, .cons he hrest => .cons he (forall₂_of_foldedAll hrest)

private theorem forall₂_of_foldedMembers : ∀ {es es' : List (String × Expr)}, FoldedMembers es es' →
    List.Forall₂ Folded (es.map Prod.snd) (es'.map Prod.snd)
  | _, _, .nil => .nil
  | _, _, .cons he hrest => .cons he (forall₂_of_foldedMembers hrest)

private theorem names_of_foldedMembers : ∀ {es es' : List (String × Expr)}, FoldedMembers es es' →
    (es'.map fun m => (m.1, constant .null)) = es.map fun m => (m.1, constant .null)
  | _, _, .nil => rfl
  | _, _, .cons _ hrest => by
    rw [List.map_cons, List.map_cons, names_of_foldedMembers hrest]

/-- A local expression becomes a constant; any other one keeps its form, and its parts are folded. -/
theorem folded_cases {e e' : Expr} (h : Folded e e') :
    (e.isLocal = true ∧ ∃ v, e' = constant v) ∨
    (e.isLocal = false ∧ e'.form = e.form ∧ List.Forall₂ Folded e.children e'.children) := by
  cases h with
  | @computed e v hlocal _ => exact .inl ⟨hlocal, v, rfl⟩
  | kept hlocal hchildren =>
    refine .inr ⟨hlocal, rfl, ?_⟩
    rw [hchildren]
    exact .nil
  | member hlocal ht => exact .inr ⟨hlocal, rfl, .cons ht .nil⟩
  | lambda hb => exact .inr ⟨rfl, rfl, .cons hb .nil⟩
  | unary hlocal ho | convert hlocal ho => exact .inr ⟨hlocal, rfl, .cons ho .nil⟩
  | binary hlocal hl hr => exact .inr ⟨hlocal, rfl, .cons hl (.cons hr .nil)⟩
  | call hlocal ht ha =>
    have hargs := forall₂_of_foldedAll ha
    refine .inr ⟨hlocal, ?_, .cons ht hargs⟩
    rw [form, form, List.map_const', List.map_const', hargs.length_eq]
  | staticCall hlocal ha =>
    have hargs := forall₂_of_foldedAll ha
    refine .inr ⟨hlocal, ?_, hargs⟩
    rw [form, form, List.map_const', List.map_const', hargs.length_eq]
  | record hlocal hm =>
    refine .inr ⟨hlocal, ?_, forall₂_of_foldedMembers hm⟩
    rw [form, form, names_of_foldedMembers hm]

/-! ### Values of folded expressions -/

mutual

private theorem eval_of_folded (scope : Scope) : ∀ {e e' : Expr}, Folded e e' → e'.eval scope = e.eval scope
  | _, _, .computed hlocal hv => by rw [eval_of_isLocal scope hlocal, hv, eval]
  | _, _, .kept .. => rfl
  | _, _, .member _ ht => by rw [eval, eval, eval_of_folded scope ht]
  | _, _, .call _ ht ha => by rw [eval, eval, eval_of_folded scope ht, evalAll_of_foldedAll scope ha]
  | _, _, .staticCall _ ha => by rw [eval, eval, evalAll_of_foldedAll scope ha]
  | _, _, .lambda _ => by rw [eval, eval]
  | _, _, .unary _ ho => by rw [eval, eval, eval_of_folded scope ho]
  | _, _, .convert _ ho => by rw [eval, eval, eval_of_folded scope ho]
  | .binary _ operator _, _, .binary _ hl hr => by
    -- the equation of `eval` depends on the operator, which decides whether `right` is evaluated at all
    cases operator <;> rw [eval, eval, eval_of_folded scope hl, eval_of_folded scope hr]
  | _, _, .record _ hm => by rw [eval, eval, evalMembers_of_foldedMembers scope hm]

private theorem evalAll_of_foldedAll (scope : Scope) : ∀ {es es' : List Expr}, FoldedAll es es' →
    evalAll scope es' = evalAll scope es
  | _, _, .nil => rfl
  | _, _, .cons he hrest => by rw [evalAll, evalAll, eval_of_folded scope he, evalAll_of_foldedAll scope hrest]

private theorem evalMembers_of_foldedMembers (scope : Scope) : ∀ {es es' : List (String × Expr)},
    FoldedMembers es es' → evalMembers scope es' = evalMembers scope es
  | _, _, .nil => rfl
  | _, _, .cons he hrest => by
    rw [evalMembers, evalMembers, eval_of_folded scope he, evalMembers_of_foldedMembers scope hrest]

end

/-- Folding changes the value of an expression in no scope. -/
theorem eval_of_fold (scope : Scope) {e e' : Expr} (h : fold e = .ok e') : e'.eval scope = e.eval scope :=
  eval_of_folded scope (folded_of_fold h)

/-! ### Methods of folded expressions -/

theorem method?_form (e : Expr) : e.form.method? = e.method? := by
  cases e <;> rfl

private theorem methods_of_folded {e e' : Expr} (h : Folded e e') : e'.methods ⊆ e.methods := by
  induction e using induction_on_children generalizing e' with
  | step e ih =>
    rcases folded_cases h with ⟨_, v, rfl⟩ | ⟨_, hform, hchildren⟩
    · exact List.nil_subset _
    · have hself : e'.method? = e.method? := by
        rw [← method?_form, hform, method?_form]
      intro m hm
      rw [methods, filterMap_nodes, hself, List.mem_append, List.mem_flatMap] at hm
      rw [methods, filterMap_nodes, List.mem_append, List.mem_flatMap]
      rcases hm with hm | ⟨child', hchild', hm⟩
      · exact .inl hm
      · obtain ⟨child, hchild, hfolded⟩ := (mem_of_forall₂ hchildren).1 child' hchild'
        exact .inr ⟨child, hchild, ih child hchild hfolded hm⟩

/-- Folding adds no calls. -/
theorem methods_of_fold {e e' : Expr} (h : fold e = .ok e') : e'.methods ⊆ e.methods :=
  methods_of_folded (folded_of_fold h)

/-! ### Lookups of folded expressions -/

theorem lookupKeys_of_isLocal {e : Expr} (h : e.isLocal = true) : e.lookupKeys = [] := by
  refine List.filterMap_eq_nil_iff.2 fun s hs => ?_
  have hs := isLocal_iff.1 h s hs
  cases s <;> first | rfl | cases hs

theorem lookupKey?_form (e : Expr) : e.form.lookupKey? = e.lookupKey? := by
  cases e <;> rfl

private theorem lookupKeys_of_folded {e e' : Expr} (h : Folded e e') : e'.lookupKeys = e.lookupKeys := by
  induction e using induction_on_children generalizing e' with
  | step e ih =>
    rcases folded_cases h with ⟨hlocal, v, rfl⟩ | ⟨_, hform, hchildren⟩
    · exact (lookupKeys_of_isLocal hlocal).symm
    · have hself : e'.lookupKey? = e.lookupKey? := by
        rw [← lookupKey?_form, hform, lookupKey?_form]
      have hparts := forall₂_imp_of_mem hchildren fun child hchild _ hfolded => ih child hchild hfolded
      rw [lookupKeys, lookupKeys, filterMap_nodes, filterMap_nodes, hself]
      exact congrArg _ (flatMap_eq_of_forall₂ hparts)

/-- Folding keeps all lookups. -/
theorem lookupKeys_of_fold {e e' : Expr} (h : fold e = .ok e') : e'.lookupKeys = e.lookupKeys :=
  lookupKeys_of_folded (folded_of_fold h)

/-! ### Failures of folding -/

/-- The error of the first expression that has no value. -/
def firstError? : List Expr → Option EvalError
  | [] => none
  | e :: rest => (error? e.evaluate).or (firstError? rest)

private theorem firstError?_append (es es' : List Expr) :
    firstError? (es ++ es') = (firstError? es).or (firstError? es') := by
  induction es with
  | nil => rfl
  | cons e es ih => rw [List.cons_append, firstError?, firstError?, ih, Option.or_assoc]

private theorem firstError?_eq_none {es : List Expr} :
    firstError? es = none ↔ ∀ e ∈ es, ∃ v, e.evaluate = .ok v := by
  induction es with
  | nil => simp [firstError?]
  | cons e es ih => rw [firstError?, Option.or_eq_none_iff, ih, error?_eq_none, List.forall_mem_cons]

private theorem firstError?_eq_some {es : List Expr} {error : EvalError} :
    firstError? es = some error ↔ ∃ before e after, es = before ++ e :: after ∧
      (∀ e' ∈ before, ∃ v, e'.evaluate = .ok v) ∧ e.evaluate = .error error := by
  constructor
  · intro h
    induction es with
    | nil => exact absurd h nofun
    | cons e es ih =>
      rw [firstError?, Option.or_eq_some_iff] at h
      rcases h with h | ⟨hnone, h⟩
      · exact ⟨[], e, es, rfl, by simp, error?_eq_some.1 h⟩
      · obtain ⟨before, e', after, rfl, hbefore, he'⟩ := ih h
        exact ⟨e :: before, e', after, rfl, List.forall_mem_cons.2 ⟨error?_eq_none.1 hnone, hbefore⟩, he'⟩
  · rintro ⟨before, e, after, rfl, hbefore, he⟩
    rw [firstError?_append, firstError?_eq_none.2 hbefore, Option.none_or, firstError?, he]
    rfl

private theorem error?_computed {e : Expr} (h : e.isLocal = true) :
    error? e.computed = firstError? e.localParts := by
  rw [computed_eq, localParts.eq_def, if_pos h, firstError?, firstError?, Option.or_none]
  cases e.evaluate <;> rfl

mutual

/-- Folding fails with the error of the first of the largest local parts that has no value. -/
theorem error?_fold (e : Expr) : error? (fold e) = firstError? e.localParts := by
  rw [fold.eq_def]
  split
  · exact error?_computed ‹_›
  · rw [localParts.eq_def, if_neg ‹_›]
    match e with
    | parameter _ | constant _ | staticMember _ | lookup .. => rfl
    | member target m => exact error?_bind_pure.trans (error?_fold target)
    | call target m args =>
      rw [firstError?_append, ← error?_fold target, ← error?_foldAll args]
      exact error?_bind fun _ => error?_bind_pure
    | staticCall m args => exact error?_bind_pure.trans (error?_foldAll args)
    | lambda parameters body => exact error?_bind_pure.trans (error?_fold body)
    | unary operator operand => exact error?_bind_pure.trans (error?_fold operand)
    | convert operand type => exact error?_bind_pure.trans (error?_fold operand)
    | binary left operator right =>
      rw [firstError?_append, ← error?_fold left, ← error?_fold right]
      exact error?_bind fun _ => error?_bind_pure
    | record typeName members => exact error?_bind_pure.trans (error?_foldMembers members)

private theorem error?_foldAll (es : List Expr) : error? (foldAll es) = firstError? (localPartsOfAll es) := by
  match es with
  | [] => rfl
  | e :: rest =>
    rw [foldAll, localPartsOfAll, firstError?_append, ← error?_fold e, ← error?_foldAll rest]
    exact error?_bind fun _ => error?_bind_pure

private theorem error?_foldMembers (es : List (String × Expr)) :
    error? (foldMembers es) = firstError? (localPartsOfMembers es) := by
  match es with
  | [] => rfl
  | (name, e) :: rest =>
    rw [foldMembers, localPartsOfMembers, firstError?_append, ← error?_fold e, ← error?_foldMembers rest]
    exact error?_bind fun _ => error?_bind_pure

end

/-! ### Folding as a whole -/

/-- Folding keeps the value, or the error, of an expression in every scope. It succeeds where all the largest local
parts have values and else ends with the error of the first that has none; an expression of which no node is excluded
becomes the constant of its value. -/
theorem fold_eval_and_failure (e : Expr) :
    (∀ e', fold e = .ok e' → ∀ scope : Scope, e'.eval scope = e.eval scope) ∧
    ((∃ e', fold e = .ok e') ↔ ∀ part ∈ e.localParts, ∃ v, part.evaluate = .ok v) ∧
    (∀ error, fold e = .error error ↔ ∃ before part after, e.localParts = before ++ part :: after ∧
      (∀ earlier ∈ before, ∃ v, earlier.evaluate = .ok v) ∧ part.evaluate = .error error) ∧
    ((∀ s ∈ e.nodes, s.isExcluded = false) → fold e = e.evaluate.map constant) := by
  refine ⟨fun e' h scope => eval_of_fold scope h, ?_, fun error => ?_, fun h => fold_of_isLocal (isLocal_iff.2 h)⟩
  · rw [← error?_eq_none, error?_fold, firstError?_eq_none]
  · rw [← error?_eq_some, error?_fold, firstError?_eq_some]

/-- An age that is compared with a sum, and the sum by itself. -/
theorem fold_eval_and_failure_age :
    let age := member (parameter ⟨"w", "WebUser"⟩) ⟨"age", .named "WebUser", .int32⟩
    let sum := binary (constant (.int32 20)) (.arithmetic .add) (constant (.int32 1))
    fold (binary age (.compare .greater) sum) = .ok (binary age (.compare .greater) (constant (.int32 21))) ∧
    (∀ scope : Scope, eval scope (binary age (.compare .greater) (constant (.int32 21))) =
      eval scope (binary age (.compare .greater) sum)) ∧
    (∀ s ∈ sum.nodes, s.isExcluded = false) ∧ fold sum = sum.evaluate.map constant := by
  intro age sum
  have hfold : fold (binary age (.compare .greater) sum) =
      .ok (binary age (.compare .greater) (constant (.int32 21))) := rfl
  have hnodes : ∀ s ∈ sum.nodes, s.isExcluded = false := by simp [sum, nodes, isExcluded]
  exact ⟨hfold, (fold_eval_and_failure _).1 _ hfold, hnodes, (fold_eval_and_failure sum).2.2.2 hnodes⟩

end DocumentSearch.Expr
