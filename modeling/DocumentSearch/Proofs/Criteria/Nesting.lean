import DocumentSearch.Proofs.Criteria.Disjunction
import DocumentSearch.Proofs.Value.LooseEquality

/-!
# Disjunctions within disjunctions

A disjunction of exact equalities may as well be given by its parts (`or_nested`): the clauses that the inner one
has gathered are put in their places by the outer one just as the criteria that they were gathered from
(`foldl_addClause_clauses`).

Two facts make this so. A value that the inner disjunction leaves out is left out by the outer one as well, because
loose equality leads on from the value that stands for it. And an equality goes to the clause with its key, wherever
that stands, so that it makes no difference what is added in between (`addClause_addEquality`).
-/

namespace DocumentSearch

/-- Leaves ask for no float and compare no analysed content. -/
def LeafCondition.exactFloatFree : LeafCondition where
  equals _ v := v.isFloatFree = true
  analyzed := False

namespace Criteria

open Equality (addValue)

/-! ### Values -/

private theorem addValue_of_mem {values : List Value} {v w : Value} (hw : w ∈ values) (h : w.looselyEqual v = true) :
    addValue values v = values :=
  if_pos (List.any_eq_true.2 ⟨w, hw, h⟩)

/-- Values may be added one by one, or put together first. -/
private theorem foldl_addValue_foldl (values : List Value) {us vs : List Value} (h : ∀ v ∈ us ++ vs, v.Sharp) :
    (vs.foldl addValue us).foldl addValue values = vs.foldl addValue (us.foldl addValue values) := by
  induction vs using List.reverseRecOn with
  | nil => rfl
  | append_singleton vs v ih =>
    have hsharp : ∀ v ∈ us ++ vs, v.Sharp := fun v hv => h v (by
      rw [← List.append_assoc]
      exact List.mem_append_left _ hv)
    specialize ih hsharp
    rw [List.foldl_concat, List.foldl_concat, ← ih]
    by_cases hany : (vs.foldl addValue us).any (Value.looselyEqual · v) = true
    · -- the inner list has the value, and what stands for it in the outer list stands for this one too
      obtain ⟨g, hg, hgv⟩ := List.any_eq_true.1 hany
      obtain ⟨w, hw, hwg⟩ := exists_mem_foldl_addValue values hg
      have hgsharp : g.Sharp := hsharp g (List.mem_append.2 (mem_foldl_addValue hg))
      have hwv : w.looselyEqual v = true := by
        rcases hwg with rfl | hwg
        · exact hgv
        · exact Value.looselyEqual_trans hgsharp hwg hgv
      rw [addValue_of_mem hg hgv, addValue_of_mem hw hwv]
    · rw [show addValue (vs.foldl addValue us) v = vs.foldl addValue us ++ [v] from if_neg hany, List.foldl_concat]

/-! ### Equalities -/

private theorem absorb_absorb {a b c : Equality} (hb : ∀ v ∈ b.values, v.Sharp) (hc : ∀ v ∈ c.values, v.Sharp) :
    (a.absorb b).absorb c = a.absorb (b.absorb c) := by
  have hvalues := foldl_addValue_foldl a.values (List.forall_mem_append.2 ⟨hb, hc⟩)
  simp only [Equality.absorb, hvalues]

/-- Of two equalities with one key, the second may be absorbed before they are added or after. -/
private theorem addEquality_absorb {a b : Equality} (hkey : a.key = b.key) (ha : ∀ v ∈ a.values, v.Sharp)
    (hb : ∀ v ∈ b.values, v.Sharp) (clauses : List Clause) :
    addEquality clauses (a.absorb b) = addEquality (addEquality clauses a) b := by
  induction clauses with
  | nil => exact (addEquality_of_key_eq hkey []).symm
  | cons cl rest ih =>
    cases cl with
    | other c => exact congrArg _ ih
    | equality e =>
      by_cases h : e.key = a.key
      · rw [addEquality_of_key_eq h, addEquality_of_key_eq (a := e.absorb a) (h.trans hkey),
          addEquality_of_key_eq (b := a.absorb b) h, absorb_absorb ha hb]
      · rw [addEquality_of_key_ne (b := a.absorb b) h, addEquality_of_key_ne h, addEquality_of_key_ne (hkey ▸ h), ih]

/-! ### Clauses -/

private theorem addEquality_append_other {clauses : List Clause} {e : Equality} (h : e.key ∈ keysOf clauses)
    (c : Criteria) : addEquality (clauses ++ [.other c]) e = addEquality clauses e ++ [.other c] := by
  induction clauses with
  | nil => cases h
  | cons cl rest ih =>
    cases cl with
    | other d => exact congrArg _ (ih h)
    | equality e' =>
      rw [List.cons_append]
      by_cases hkey : e'.key = e.key
      · rw [addEquality_of_key_eq hkey, addEquality_of_key_eq hkey, List.cons_append]
      · have hmem : e.key ∈ keysOf rest := (List.mem_cons.1 h).resolve_left (Ne.symm hkey)
        rw [addEquality_of_key_ne hkey, addEquality_of_key_ne hkey, ih hmem, List.cons_append]

private theorem addEquality_comm {clauses : List Clause} {a b : Equality} (h : a.key ∈ keysOf clauses)
    (hne : b.key ≠ a.key) : addEquality (addEquality clauses a) b = addEquality (addEquality clauses b) a := by
  induction clauses with
  | nil => cases h
  | cons cl rest ih =>
    cases cl with
    | other d => exact congrArg _ (ih h)
    | equality e =>
      by_cases ha : e.key = a.key
      · have hb : e.key ≠ b.key := fun hb => hne (hb.symm.trans ha)
        rw [addEquality_of_key_eq ha, addEquality_of_key_ne hb, addEquality_of_key_eq ha,
          addEquality_of_key_ne (a := e.absorb a) hb]
      · have hmem : a.key ∈ keysOf rest := (List.mem_cons.1 h).resolve_left (Ne.symm ha)
        rw [addEquality_of_key_ne ha]
        by_cases hb : e.key = b.key
        · rw [addEquality_of_key_eq hb, addEquality_of_key_eq hb, addEquality_of_key_ne (a := e.absorb b) ha]
        · rw [addEquality_of_key_ne hb, addEquality_of_key_ne hb, addEquality_of_key_ne ha, ih hmem]

/-- An equality for which there is a clause may be added before or after a criterion that goes elsewhere. -/
private theorem addClause_addEquality {clauses : List Clause} {e : Equality} (h : e.key ∈ keysOf clauses)
    {c : Criteria} (hc : ∀ e', c.equality? = some e' → e'.key ≠ e.key) :
    addClause (addEquality clauses e) c = addEquality (addClause clauses c) e := by
  unfold addClause
  split
  · rename_i e' he'
    exact addEquality_comm h (hc e' he')
  · exact (addEquality_append_other h c).symm

private theorem mem_keysOf_addClause {clauses : List Clause} {key : String × EqualityKind} (h : key ∈ keysOf clauses)
    (c : Criteria) : key ∈ keysOf (addClause clauses c) := by
  unfold addClause
  split
  · rw [keysOf_addEquality]
    split
    · exact h
    · exact List.mem_append_left _ h
  · rw [keysOf_append]
    exact List.mem_append_left _ h

private theorem foldl_addClause_addEquality {clauses : List Clause} {e : Equality} (h : e.key ∈ keysOf clauses)
    {cs : List Criteria} (hcs : ∀ c ∈ cs, ∀ e', c.equality? = some e' → e'.key ≠ e.key) :
    cs.foldl addClause (addEquality clauses e) = addEquality (cs.foldl addClause clauses) e := by
  induction cs generalizing clauses with
  | nil => rfl
  | cons c cs ih =>
    simp only [List.forall_mem_cons] at hcs
    rw [List.foldl_cons, addClause_addEquality h hcs.1, ih (mem_keysOf_addClause h c) hcs.2, List.foldl_cons]

/-! ### Clauses as criteria -/

/-- The clause is an exact equality with sharp values, or no equality at all. -/
def Clause.IsExact : Clause → Prop
  | equality e => e.kind = .exact ∧ ∀ v ∈ e.values, v.Sharp
  | other c => c.equality? = none

/-- The criterion of an exact equality says this equality. -/
private theorem addClause_criterion {e : Equality} (h : e.kind = .exact) (clauses : List Clause) :
    addClause clauses e.criterion = addEquality clauses e := by
  obtain ⟨kind, he, hkind⟩ := exists_equality?_criterion e
  rw [hkind h, ← h] at he
  rw [addClause, he]

private theorem key_ne_of_mem_map {clauses : List Clause} {key : String × EqualityKind} (hkey : key ∉ keysOf clauses)
    (hclauses : ∀ cl ∈ clauses, cl.IsExact) :
    ∀ c ∈ clauses.map Clause.criterion, ∀ e, c.equality? = some e → e.key ≠ key := by
  rw [List.forall_mem_map]
  intro cl hcl e he heq
  have hexact := hclauses cl hcl
  cases cl with
  | other c => rw [Clause.criterion, hexact] at he; cases he
  | equality e' =>
    obtain ⟨kind, he', hkind⟩ := exists_equality?_criterion e'
    rw [Clause.criterion, he', hkind hexact.1, ← hexact.1] at he
    cases he
    exact hkey (mem_keysOf.2 ⟨e', hcl, heq⟩)

/-- Where one of the clauses has absorbed an equality, it makes no difference if this is added last. -/
private theorem foldl_addClause_addEquality_clauses {clauses : List Clause} {e : Equality}
    (hkeys : (keysOf clauses).Nodup) (hclauses : ∀ cl ∈ clauses, cl.IsExact) (he : Clause.IsExact (.equality e))
    (before : List Clause) :
    ((addEquality clauses e).map Clause.criterion).foldl addClause before =
      addEquality ((clauses.map Clause.criterion).foldl addClause before) e := by
  induction clauses generalizing before with
  | nil => exact addClause_criterion he.1 before
  | cons cl rest ih =>
    simp only [List.forall_mem_cons] at hclauses
    cases cl with
    | other c => exact ih hkeys hclauses.2 _
    | equality e' =>
      obtain ⟨hkey, hkeys⟩ := List.nodup_cons.1 hkeys
      obtain ⟨⟨hkind, hsharp⟩, hrest⟩ := hclauses
      by_cases heq : e'.key = e.key
      · -- the equality is absorbed first, and so it has to pass the other clauses
        have hmem : e.key ∈ keysOf (addEquality before e') := by
          rw [← heq, keysOf_addEquality]
          split <;> simp_all
        have hothers := key_ne_of_mem_map (heq ▸ hkey) hrest
        rw [addEquality_of_key_eq heq, List.map_cons, List.map_cons, List.foldl_cons, List.foldl_cons,
          Clause.criterion, Clause.criterion, addClause_criterion (e := e'.absorb e) hkind, addClause_criterion hkind,
          addEquality_absorb heq hsharp he.2, foldl_addClause_addEquality hmem hothers]
      · rw [addEquality_of_key_ne heq]
        exact ih hkeys hrest _

private theorem isExact_of_mem_foldl_addClause {cs : List Criteria} (h : ∀ c ∈ cs, c.Leaves .exactFloatFree) :
    ∀ cl ∈ cs.foldl addClause [], cl.IsExact := by
  intro cl hcl
  cases cl with
  | other c => exact (mem_of_other_mem_foldl_addClause hcl).2
  | equality e =>
    obtain ⟨-, hvalues, hkind⟩ : Equality.Leaves .exactFloatFree e := leaves_foldl_addClause (by simp) h _ hcl
    refine ⟨?_, fun v hv => Value.sharp_of_isFloatFree (hvalues v hv)⟩
    cases hk : e.kind with
    | exact => rfl
    | analyzed => exact (hkind hk).elim

/-- Adding the criteria of clauses is adding the criteria that these were gathered from. -/
private theorem foldl_addClause_clauses {cs : List Criteria} (h : ∀ c ∈ cs, c.Leaves .exactFloatFree)
    (before : List Clause) :
    ((cs.foldl addClause []).map Clause.criterion).foldl addClause before = cs.foldl addClause before := by
  induction cs using List.reverseRecOn with
  | nil => rfl
  | append_singleton cs c ih =>
    obtain ⟨hcs, hc⟩ := List.forall_mem_append.1 h
    rw [List.foldl_concat, List.foldl_concat, ← ih hcs]
    cases he : c.equality? with
    | none => simp only [addClause, he, List.map_append, List.map_singleton, Clause.criterion, List.foldl_concat]
    | some e =>
      have hexact : Clause.IsExact (.equality e) :=
        isExact_of_mem_foldl_addClause hc (.equality e) (by simp [addClause, he, addEquality])
      simp only [addClause, he]
      exact foldl_addClause_addEquality_clauses (nodup_keysOf_foldl_addClause cs)
        (isExact_of_mem_foldl_addClause hcs) hexact before

/-! ### Disjunctions -/

private theorem any_isMatchAll_or (cs : List Criteria) :
    (disjuncts (or cs)).any isMatchAll = (allDisjuncts cs).any isMatchAll := by
  cases h : (allDisjuncts cs).any isMatchAll with
  | true => rw [or_of_any_isMatchAll h]; rfl
  | false =>
    rw [disjuncts_or h]
    split
    · rfl
    · rw [List.any_eq_false, List.forall_mem_map]
      intro cl hcl
      rw [(criterion_of_mem_clausesOf h hcl).2.2]
      exact Bool.false_ne_true

private theorem clausesOf_append_or {xs ys zs : List Criteria} (h : ∀ c ∈ ys, c.Leaves .exactFloatFree)
    (hys : (allDisjuncts ys).any isMatchAll = false) :
    clausesOf (xs ++ [or ys] ++ zs) = clausesOf (xs ++ ys ++ zs) := by
  simp only [clausesOf, keptDisjuncts_append, List.foldl_append, keptDisjuncts_or hys]
  rw [foldl_addClause_clauses (leaves_keptDisjuncts h)]

private theorem or_append_or (xs : List Criteria) {ys : List Criteria} (zs : List Criteria)
    (h : ∀ c ∈ ys, c.Leaves .exactFloatFree) : or (xs ++ [or ys] ++ zs) = or (xs ++ ys ++ zs) := by
  have hany : (allDisjuncts (xs ++ [or ys] ++ zs)).any isMatchAll = (allDisjuncts (xs ++ ys ++ zs)).any isMatchAll := by
    simp only [allDisjuncts_append, List.any_append, allDisjuncts, List.append_nil, any_isMatchAll_or]
  cases hmatch : (allDisjuncts (xs ++ ys ++ zs)).any isMatchAll with
  | true => rw [or_of_any_isMatchAll hmatch, or_of_any_isMatchAll (hany.trans hmatch)]
  | false =>
    have hys : (allDisjuncts ys).any isMatchAll = false := by
      simp only [allDisjuncts_append, List.any_append, Bool.or_eq_false_iff] at hmatch
      exact hmatch.1.2
    rw [or_eq_disjunctionOf hmatch, or_eq_disjunctionOf (hany.trans hmatch), clausesOf_append_or h hys]

/-- A disjunction within a disjunction may as well be given by its parts, and alone it stays as it is, if it asks for no
float and compares no analysed content. What surrounds it may do both. -/
theorem or_nested {xs ys zs : List Criteria} (h : ∀ c ∈ ys, c.Leaves .exactFloatFree) :
    or (xs ++ [or ys] ++ zs) = or (xs ++ ys ++ zs) ∧ or [or ys] = or ys := by
  have halone := or_append_or [] [] h
  rw [List.nil_append, List.nil_append, List.append_nil, List.append_nil] at halone
  exact ⟨or_append_or xs zs h, halone⟩

/-- Ages and names among ages and names, some of them in both widths, twice or as a float. -/
theorem or_nested_ages :
    let age (v : Value) : Criteria := term "age" v none
    let name (s : String) : Criteria := term "name" (.string s) none
    let xs := [age (.int64 21), negation (name "Ida"), age (.float 18)]
    let ys := [terms "age" [.int32 18, .int64 18, .int32 21] none none, negation matchAll,
      disjunction [name "Ana", present "email", age (.int64 30)], bool [present "age"] [] [name "Eva"]]
    let zs := [name "Eva", analyzed "age" (.int32 65) none]
    (∀ c ∈ ys, c.Leaves .exactFloatFree) ∧
      or (xs ++ [or ys] ++ zs) = or (xs ++ ys ++ zs) ∧ or [or ys] = or ys := by
  intro age name xs ys zs
  have hys : ∀ c ∈ ys, c.Leaves .exactFloatFree := by
    simp [ys, age, name, Leaves, AllLeaves, LeafCondition.exactFloatFree, Value.isFloatFree]
  exact ⟨hys, or_nested hys⟩

end Criteria

end DocumentSearch
