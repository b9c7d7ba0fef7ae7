import DocumentSearch.Proofs.Criteria.Meaning
import DocumentSearch.Proofs.Value.Compare

/-!
# Soundness of the combinators

`Criteria.not`, `Criteria.and` and `Criteria.or` mean what their names say (`holds_not`, `holds_and`, `holds_or`) and
keep every condition on leaves (`leaves_not`, `leaves_and`, `leaves_or`).

A disjunction is put together clause by clause. What the clauses say so far and the conditions that they satisfy are
followed through this loop: `any_addClause` and `leaves_addClause` are its steps.
-/

namespace DocumentSearch

/-- Leaves of `I` that ask for equality say `E`, which does not tell loosely equal values apart, and leaves that have
an opposite are its negation. It need be so only of leaves that satisfy `P`. -/
structure Interpretation.Lawful (I : Interpretation) (E : String → Value → Bool) (P : LeafCondition) : Prop where
  congr {field : String} {v w : Value} : P.equals field v → P.equals field w → v.looselyEqual w →
    E field v = E field w
  term {field : String} {v : Value} (member : Option Member) : P.equals field v → I.term field v member = E field v
  analyzed {field : String} {v : Value} (member : Option Member) : P.analyzed → P.equals field v →
    I.analyzed field v member = E field v
  terms {field : String} {values : List Value} (member : Option Member) : (∀ v ∈ values, P.equals field v) →
    I.terms field values none member = values.any (E field)
  range {field : String} {v : Value} (comparison : Comparison) (member : Option Member) : P.ordered field v →
    I.range field comparison.negate v member = !I.range field comparison v member
  missing (field : String) : P.field field → I.missing field = !I.present field

namespace Criteria

variable {I : Interpretation} {E : String → Value → Bool} {P : LeafCondition}

/-! ### Equalities -/

/-- The field is equal to one of the values. -/
def Equality.holds (E : String → Value → Bool) (e : Equality) : Bool := e.values.any (E e.field)

/-- What the equality carries satisfies the condition. -/
def Equality.Leaves (P : LeafCondition) (e : Equality) : Prop :=
  P.field e.field ∧ (∀ v ∈ e.values, P.equals e.field v) ∧ (e.kind = .analyzed → P.analyzed)

private theorem leaves_equality? {c : Criteria} {e : Equality} (h : c.equality? = some e) (hc : c.Leaves P) :
    e.Leaves P := by
  unfold equality? at h
  split at h <;> cases h
  · exact ⟨hc.1, by simpa using hc.2, nofun⟩
  · exact ⟨hc.1, hc.2.1, nofun⟩
  · exact ⟨hc.1, by simpa using hc.2.1, fun _ => hc.2.2⟩

private theorem holds_equality? (hI : I.Lawful E P) {c : Criteria} {e : Equality} (h : c.equality? = some e)
    (hc : c.Leaves P) : e.holds E = c.holds I := by
  unfold equality? at h
  split at h <;> cases h
  · simp [Equality.holds, Criteria.holds, hI.term _ hc.2]
  · simp [Equality.holds, Criteria.holds, hI.terms _ hc.2.1]
  · simp [Equality.holds, Criteria.holds, hI.analyzed _ hc.2.2 hc.2.1]

private theorem mem_addValue {values : List Value} {v w : Value} (h : w ∈ Equality.addValue values v) :
    w ∈ values ∨ w = v := by
  unfold Equality.addValue at h
  split at h
  · exact .inl h
  · simpa using h

theorem mem_foldl_addValue {values added : List Value} {w : Value}
    (h : w ∈ added.foldl Equality.addValue values) : w ∈ values ∨ w ∈ added := by
  induction added generalizing values with
  | nil => exact .inl h
  | cons v added ih =>
    rcases ih h with h | h
    · rcases mem_addValue h with h | rfl
      · exact .inl h
      · exact .inr (by simp)
    · exact .inr (by simp [h])

/-- A value that is left out is loosely equal to one that is there. -/
private theorem any_addValue (hI : I.Lawful E P) {field : String} {values : List Value} {v : Value}
    (hvs : ∀ w ∈ values, P.equals field w) (hv : P.equals field v) :
    (Equality.addValue values v).any (E field) = (values.any (E field) || E field v) := by
  unfold Equality.addValue
  split
  · rename_i h
    obtain ⟨w, hw, hwv⟩ := List.any_eq_true.1 h
    have hE : E field w = E field v := hI.congr (hvs w hw) hv hwv
    cases hEv : E field v with
    | false => simp
    | true => simp only [Bool.or_true, List.any_eq_true]; exact ⟨w, hw, hE.trans hEv⟩
  · simp

private theorem any_foldl_addValue (hI : I.Lawful E P) {field : String} {values added : List Value}
    (hvs : ∀ w ∈ values, P.equals field w) (hadded : ∀ w ∈ added, P.equals field w) :
    (added.foldl Equality.addValue values).any (E field) = (values.any (E field) || added.any (E field)) := by
  induction added generalizing values with
  | nil => simp
  | cons v added ih =>
    simp only [List.forall_mem_cons] at hadded
    rw [List.foldl_cons, ih _ hadded.2, any_addValue hI hvs hadded.1, List.any_cons, Bool.or_assoc]
    intro w hw
    rcases mem_addValue hw with hw | rfl
    · exact hvs w hw
    · exact hadded.1

private theorem joins_iff {a b : Equality} : a.joins b = true ↔ a.field = b.field ∧ a.kind = b.kind := by
  simp [Equality.joins]

private theorem leaves_absorb {a b : Equality} (h : a.joins b = true) (ha : a.Leaves P) (hb : b.Leaves P) :
    (a.absorb b).Leaves P := by
  obtain ⟨hfield, -⟩ := joins_iff.1 h
  refine ⟨ha.1, fun w hw => ?_, ha.2.2⟩
  rcases mem_foldl_addValue hw with hw | hw
  · exact ha.2.1 w hw
  · rw [show (a.absorb b).field = b.field from hfield]
    exact hb.2.1 w hw

private theorem holds_absorb (hI : I.Lawful E P) {a b : Equality} (h : a.joins b = true) (ha : a.Leaves P)
    (hb : b.Leaves P) : (a.absorb b).holds E = (a.holds E || b.holds E) := by
  obtain ⟨hfield, -⟩ := joins_iff.1 h
  unfold Equality.holds
  rw [← hfield]
  exact any_foldl_addValue hI ha.2.1 (hfield ▸ hb.2.1)

private theorem leaves_criterion {e : Equality} (he : e.Leaves P) : e.criterion.Leaves P := by
  unfold Equality.criterion
  split
  · rename_i hvs
    exact ⟨he.1, he.2.1 _ (by simp [hvs])⟩
  · rename_i hk hvs
    exact ⟨he.1, he.2.1 _ (by simp [hvs]), he.2.2 hk⟩
  · exact ⟨he.1, he.2.1, by simp⟩

private theorem holds_criterion (hI : I.Lawful E P) {e : Equality} (he : e.Leaves P) :
    e.criterion.holds I = e.holds E := by
  unfold Equality.criterion Equality.holds
  split
  · rename_i v _ hvs
    rw [hvs, Criteria.holds, hI.term _ (he.2.1 v (by simp [hvs]))]
    simp
  · rename_i v hk hvs
    rw [hvs, Criteria.holds, hI.analyzed _ (he.2.2 hk) (he.2.1 v (by simp [hvs]))]
    simp
  · rw [Criteria.holds, hI.terms _ he.2.1]

/-! ### Clauses -/

/-- The clause holds. -/
def Clause.holds (I : Interpretation) (E : String → Value → Bool) : Clause → Bool
  | equality e => e.holds E
  | other c => c.holds I

/-- What the clause carries satisfies the condition. -/
def Clause.Leaves (P : LeafCondition) : Clause → Prop
  | equality e => e.Leaves P
  | other c => c.Leaves P

/-- What holds of the clauses and of an equality, and is kept where it is absorbed, holds with the equality added. -/
theorem forall_addEquality {Q : Clause → Prop} {clauses : List Clause} {e : Equality} (hcl : ∀ cl ∈ clauses, Q cl)
    (he : Q (.equality e)) (habsorb : ∀ e', Q (.equality e') → e'.joins e = true → Q (.equality (e'.absorb e))) :
    ∀ cl ∈ addEquality clauses e, Q cl := by
  induction clauses with
  | nil => simpa [addEquality] using he
  | cons cl rest ih =>
    simp only [List.forall_mem_cons] at hcl
    cases cl with
    | equality e' =>
      simp only [addEquality]
      split
      · rename_i hjoins
        exact List.forall_mem_cons.2 ⟨habsorb e' hcl.1 hjoins, hcl.2⟩
      · exact List.forall_mem_cons.2 ⟨hcl.1, ih hcl.2⟩
    | other c => exact List.forall_mem_cons.2 ⟨hcl.1, ih hcl.2⟩

/-- `forall_addEquality` for any criterion that is added. -/
theorem forall_addClause {Q : Clause → Prop} {clauses : List Clause} {c : Criteria} (hcl : ∀ cl ∈ clauses, Q cl)
    (hequality : ∀ e, c.equality? = some e → Q (.equality e))
    (habsorb : ∀ e e', c.equality? = some e → Q (.equality e') → e'.joins e = true → Q (.equality (e'.absorb e)))
    (hother : c.equality? = none → Q (.other c)) : ∀ cl ∈ addClause clauses c, Q cl := by
  unfold addClause
  split
  · rename_i e he
    exact forall_addEquality hcl (hequality e he) fun e' => habsorb e e' he
  · rename_i hnone
    exact List.forall_mem_append.2 ⟨hcl, List.forall_mem_singleton.2 (hother hnone)⟩

private theorem any_addEquality (hI : I.Lawful E P) {clauses : List Clause} {e : Equality}
    (hcl : ∀ cl ∈ clauses, cl.Leaves P) (he : e.Leaves P) :
    (addEquality clauses e).any (Clause.holds I E) = (clauses.any (Clause.holds I E) || e.holds E) := by
  induction clauses with
  | nil => simp [addEquality, Clause.holds]
  | cons cl rest ih =>
    simp only [List.forall_mem_cons] at hcl
    cases cl with
    | equality e' =>
      simp only [addEquality]
      split
      · rename_i hjoins
        -- the equality is taken in here, and so it stands before the rest and not behind it
        simp only [List.any_cons, Clause.holds, holds_absorb hI hjoins hcl.1 he]
        rw [Bool.or_assoc, Bool.or_assoc, Bool.or_comm (e.holds E)]
      · simp only [List.any_cons, ih hcl.2, Bool.or_assoc]
    | other c => simp only [addEquality, List.any_cons, ih hcl.2, Bool.or_assoc]

theorem leaves_addClause {clauses : List Clause} {c : Criteria} (hcl : ∀ cl ∈ clauses, cl.Leaves P)
    (hc : c.Leaves P) : ∀ cl ∈ addClause clauses c, cl.Leaves P :=
  forall_addClause hcl (fun _ he => leaves_equality? he hc)
    (fun _ _ he he' hjoins => leaves_absorb hjoins he' (leaves_equality? he hc)) fun _ => hc

/-- The clauses with one more say what they said or what that one says. -/
theorem any_addClause (hI : I.Lawful E P) {clauses : List Clause} {c : Criteria}
    (hcl : ∀ cl ∈ clauses, cl.Leaves P) (hc : c.Leaves P) :
    (addClause clauses c).any (Clause.holds I E) = (clauses.any (Clause.holds I E) || c.holds I) := by
  unfold addClause
  split
  · rename_i e h
    rw [any_addEquality hI hcl (leaves_equality? h hc), holds_equality? hI h hc]
  · simp [Clause.holds]

theorem leaves_foldl_addClause {cs : List Criteria} {clauses : List Clause}
    (hcl : ∀ cl ∈ clauses, cl.Leaves P) (hcs : ∀ c ∈ cs, c.Leaves P) :
    ∀ cl ∈ cs.foldl addClause clauses, cl.Leaves P :=
  List.foldlRecOn (motive := fun clauses => ∀ cl ∈ clauses, cl.Leaves P) cs addClause hcl
    fun _ hcl c hc => leaves_addClause hcl (hcs c hc)

private theorem any_foldl_addClause (hI : I.Lawful E P) {cs : List Criteria} {clauses : List Clause}
    (hcl : ∀ cl ∈ clauses, cl.Leaves P) (hcs : ∀ c ∈ cs, c.Leaves P) :
    (cs.foldl addClause clauses).any (Clause.holds I E) = (clauses.any (Clause.holds I E) || cs.any (holds I)) := by
  induction cs generalizing clauses with
  | nil => simp
  | cons c cs ih =>
    simp only [List.forall_mem_cons] at hcs
    rw [List.foldl_cons, ih (leaves_addClause hcl hcs.1) hcs.2, any_addClause hI hcl hcs.1, List.any_cons,
      Bool.or_assoc]

private theorem leaves_clauseCriterion {cl : Clause} (h : cl.Leaves P) : cl.criterion.Leaves P := by
  cases cl with
  | equality e => exact leaves_criterion h
  | other c => exact h

private theorem holds_clauseCriterion (hI : I.Lawful E P) {cl : Clause} (h : cl.Leaves P) :
    cl.criterion.holds I = cl.holds I E := by
  cases cl with
  | equality e => exact holds_criterion hI h
  | other c => rfl

private theorem any_clauseCriterion (hI : I.Lawful E P) {clauses : List Clause}
    (h : ∀ cl ∈ clauses, cl.Leaves P) :
    (clauses.map Clause.criterion).any (holds I) = clauses.any (Clause.holds I E) := by
  induction clauses with
  | nil => rfl
  | cons cl clauses ih =>
    simp only [List.forall_mem_cons] at h
    rw [List.map_cons, List.any_cons, List.any_cons, holds_clauseCriterion hI h.1, ih h.2]

/-! ### Disjunction -/

mutual

/-- What the clauses of a disjunction take over from it holds of all that a criterion is taken apart into. -/
theorem forall_mem_disjuncts {Q : Criteria → Prop} (hQ : ∀ {clauses}, Q (disjunction clauses) → ∀ c ∈ clauses, Q c) :
    ∀ {c : Criteria}, Q c → ∀ d ∈ disjuncts c, Q d
  | disjunction clauses, h => by
    rw [disjuncts]
    exact forall_mem_allDisjuncts hQ (hQ h)
  | term .., h | terms .., h | range .., h | present _, h | missing _, h | pattern .., h | analyzed .., h
  | bool .., h | negation _, h | matchAll, h => by
    simpa [disjuncts] using h

theorem forall_mem_allDisjuncts {Q : Criteria → Prop}
    (hQ : ∀ {clauses}, Q (disjunction clauses) → ∀ c ∈ clauses, Q c) :
    ∀ {cs : List Criteria}, (∀ c ∈ cs, Q c) → ∀ d ∈ allDisjuncts cs, Q d
  | [], _ => by simp [allDisjuncts]
  | c :: rest, h => by
    simp only [List.forall_mem_cons] at h
    rw [allDisjuncts]
    intro d hd
    rcases List.mem_append.1 hd with hd | hd
    · exact forall_mem_disjuncts hQ h.1 d hd
    · exact forall_mem_allDisjuncts hQ h.2 d hd

end

theorem leaves_allDisjuncts {cs : List Criteria} (h : ∀ c ∈ cs, c.Leaves P) : ∀ d ∈ allDisjuncts cs, d.Leaves P :=
  forall_mem_allDisjuncts leaves_disjunction.1 h

mutual

private theorem any_disjuncts (I : Interpretation) : ∀ c : Criteria, (disjuncts c).any (holds I) = holds I c
  | disjunction clauses => by rw [disjuncts, any_allDisjuncts I clauses, holds_disjunction]
  | term .. | terms .. | range .. | present _ | missing _ | pattern .. | analyzed .. | bool .. | negation _
  | matchAll => by simp [disjuncts]

private theorem any_allDisjuncts (I : Interpretation) :
    ∀ cs : List Criteria, (allDisjuncts cs).any (holds I) = cs.any (holds I)
  | [] => rfl
  | c :: rest => by
    rw [allDisjuncts, List.any_append, any_disjuncts I c, any_allDisjuncts I rest, List.any_cons]

end

private theorem leaves_disjunctionOf {cs : List Criteria} (h : ∀ c ∈ cs, c.Leaves P) :
    (disjunctionOf cs).Leaves P := by
  unfold disjunctionOf
  split
  · exact leaves_matchNone
  · exact h _ (by simp)
  · exact leaves_disjunction.2 h

private theorem holds_disjunctionOf (I : Interpretation) (cs : List Criteria) :
    (disjunctionOf cs).holds I = cs.any (holds I) := by
  unfold disjunctionOf
  split <;> simp

private theorem isMatchAll_iff {c : Criteria} : c.isMatchAll = true ↔ c = matchAll := by
  cases c <;> simp [isMatchAll]

private theorem holds_of_isMatchNone {c : Criteria} (h : c.isMatchNone = true) : c.holds I = false := by
  unfold isMatchNone at h
  split at h
  · rfl
  · exact absurd h (by simp)

private theorem any_filter_isMatchNone (I : Interpretation) (cs : List Criteria) :
    (cs.filter fun c => !c.isMatchNone).any (holds I) = cs.any (holds I) := by
  rw [List.any_filter]
  refine congrArg cs.any (funext fun c => ?_)
  cases h : c.isMatchNone with
  | false => simp
  | true => simp [holds_of_isMatchNone h]

/-- The disjuncts that hold of some document. -/
def keptDisjuncts (cs : List Criteria) : List Criteria := (allDisjuncts cs).filter fun c => !c.isMatchNone

/-- The clauses that criteria are gathered into. -/
def clausesOf (cs : List Criteria) : List Clause := (keptDisjuncts cs).foldl addClause []

theorem leaves_keptDisjuncts {cs : List Criteria} (h : ∀ c ∈ cs, c.Leaves P) : ∀ c ∈ keptDisjuncts cs, c.Leaves P :=
  fun c hc => leaves_allDisjuncts h c (List.mem_filter.1 hc).1

theorem leaves_clausesOf {cs : List Criteria} (h : ∀ c ∈ cs, c.Leaves P) : ∀ cl ∈ clausesOf cs, cl.Leaves P :=
  leaves_foldl_addClause (by simp) (leaves_keptDisjuncts h)

theorem leaves_or {cs : List Criteria} (h : ∀ c ∈ cs, c.Leaves P) : (or cs).Leaves P := by
  simp only [or]
  split
  · exact leaves_matchAll
  · refine leaves_disjunctionOf fun c hc => ?_
    obtain ⟨cl, hcl, rfl⟩ := List.mem_map.1 hc
    exact leaves_clauseCriterion (leaves_clausesOf h cl hcl)

/-- A disjunction holds where one of the criteria does, if that is so of the clauses that these are gathered into. -/
theorem holds_or_of_clauses (I : Interpretation) {cs : List Criteria}
    (h : ((clausesOf cs).map Clause.criterion).any (holds I) = (keptDisjuncts cs).any (holds I)) :
    (or cs).holds I = cs.any (holds I) := by
  rw [← any_allDisjuncts I cs]
  simp only [or]
  split
  · rename_i hall
    -- one of the clauses holds of every document
    obtain ⟨c, hc, hmatch⟩ := List.any_eq_true.1 hall
    rw [isMatchAll_iff.1 hmatch] at hc
    rw [holds_matchAll, eq_comm, List.any_eq_true]
    exact ⟨matchAll, hc, rfl⟩
  · rw [holds_disjunctionOf, ← any_filter_isMatchNone I (allDisjuncts cs)]
    exact h

/-- A disjunction holds where one of the criteria does. -/
theorem holds_or (hI : I.Lawful E P) {cs : List Criteria} (h : ∀ c ∈ cs, c.Leaves P) :
    (or cs).holds I = cs.any (holds I) := by
  refine holds_or_of_clauses I ?_
  rw [any_clauseCriterion hI (leaves_clausesOf h), clausesOf, any_foldl_addClause hI (by simp) (leaves_keptDisjuncts h),
    List.any_nil, Bool.false_or]

/-! ### Negation -/

theorem leaves_not {c : Criteria} (h : c.Leaves P) : (not c).Leaves P := by
  unfold not
  split
  · exact leaves_negation.1 h
  · exact h
  · exact h
  · exact h
  · exact leaves_or (leaves_bool.1 h).2.2
  · exact leaves_negation.2 h

/-- A negation holds where the criterion does not, if leaves that have an opposite are its negation and what is excluded
alone holds as a disjunction. Of leaves and exclusions deeper in the criterion this is not asked. -/
theorem holds_not_of_opposites {c : Criteria}
    (hrange : ∀ field comparison v member, c = range field comparison v member →
      I.range field comparison.negate v member = !I.range field comparison v member)
    (hmissing : ∀ field, c.field? = some field → I.missing field = !I.present field)
    (hor : ∀ mustNot, c = bool [] [] mustNot → (or mustNot).holds I = mustNot.any (holds I)) :
    (not c).holds I = !c.holds I := by
  unfold not
  split
  · simp
  · exact hrange _ _ _ _ rfl
  · exact hmissing _ rfl
  · simp only [holds, hmissing _ rfl, Bool.not_not]
  · rw [hor _ rfl]
    simp
  · simp

/-- A negation holds where the criterion does not. -/
theorem holds_not (hI : I.Lawful E P) {c : Criteria} (h : c.Leaves P) : (not c).holds I = !c.holds I := by
  refine holds_not_of_opposites (fun field comparison v member hc => ?_) (fun field hc => ?_) fun mustNot hc => ?_
  · rw [hc] at h
    exact hI.range comparison member h.2
  · exact hI.missing field (field_of_leaves h hc)
  · rw [hc] at h
    exact holds_or hI (leaves_bool.1 h).2.2

/-! ### Conjunction -/

private theorem leaves_required {c : Criteria} (h : c.Leaves P) : ∀ d ∈ required c, d.Leaves P := by
  unfold required
  split
  · simp
  · simp
  · exact (leaves_bool.1 h).1
  · simpa using h

theorem leaves_excluded {c : Criteria} (h : c.Leaves P) : ∀ d ∈ excluded c, d.Leaves P := by
  unfold excluded
  split
  · simpa using h
  · exact (leaves_bool.1 h).2.2
  · simp

private theorem holds_required_excluded (I : Interpretation) (c : Criteria) :
    ((required c).all (holds I) && !(excluded c).any (holds I)) = holds I c := by
  cases c with
  | bool must should mustNot => cases should <;> simp [required, excluded]
  | _ => simp [required, excluded]

private theorem leaves_conjunctionOf {must mustNot : List Criteria} (hmust : ∀ c ∈ must, c.Leaves P)
    (hmustNot : ∀ c ∈ mustNot, c.Leaves P) : (conjunctionOf must mustNot).Leaves P := by
  unfold conjunctionOf
  split
  · exact leaves_matchAll
  · exact hmust _ (by simp)
  · exact leaves_not (hmustNot _ (by simp))
  · exact leaves_bool.2 ⟨hmust, by simp, hmustNot⟩

/-- Only a negation that stands alone is rewritten. -/
private theorem holds_conjunctionOf {must mustNot : List Criteria}
    (hmustNot : ∀ c ∈ mustNot, (not c).holds I = !c.holds I) :
    (conjunctionOf must mustNot).holds I = (must.all (holds I) && !mustNot.any (holds I)) := by
  unfold conjunctionOf
  split
  · simp
  · simp
  · rw [hmustNot _ (by simp)]
    simp
  · simp

theorem leaves_and {cs : List Criteria} (h : ∀ c ∈ cs, c.Leaves P) : (and cs).Leaves P := by
  have hmust : ∀ d ∈ cs.flatMap required, d.Leaves P := List.forall_mem_flatMap.2 fun c hc => leaves_required (h c hc)
  have hmustNot : ∀ d ∈ cs.flatMap excluded, d.Leaves P :=
    List.forall_mem_flatMap.2 fun c hc => leaves_excluded (h c hc)
  exact leaves_conjunctionOf hmust hmustNot

private theorem all_required_excluded (I : Interpretation) (cs : List Criteria) :
    ((cs.flatMap required).all (holds I) && !(cs.flatMap excluded).any (holds I)) = cs.all (holds I) := by
  induction cs with
  | nil => rfl
  | cons c cs ih =>
    rw [List.flatMap_cons, List.flatMap_cons, List.all_append, List.any_append, Bool.not_or, List.all_cons,
      ← ih, ← holds_required_excluded I c]
    ac_rfl

/-- A conjunction holds where all the criteria do, if a negation holds where what it excludes does not. -/
theorem holds_and_of_not {cs : List Criteria} (h : ∀ c ∈ cs, ∀ d ∈ excluded c, (not d).holds I = !d.holds I) :
    (and cs).holds I = cs.all (holds I) := by
  rw [← all_required_excluded I cs]
  exact holds_conjunctionOf (List.forall_mem_flatMap.2 h)

/-- A conjunction holds where all the criteria do. -/
theorem holds_and (hI : I.Lawful E P) {cs : List Criteria} (h : ∀ c ∈ cs, c.Leaves P) :
    (and cs).holds I = cs.all (holds I) :=
  holds_and_of_not fun c hc d hd => holds_not hI (leaves_excluded (h c hc) d hd)

/-! ### All criteria -/

/-- Negation, conjunction and disjunction of any criteria say what they are called. -/
theorem holds_not_and_or (I : Interpretation) (E : String → Value → Bool) (hI : I.Lawful E .any) (c : Criteria)
    (cs : List Criteria) :
    (not c).holds I = !c.holds I ∧ (and cs).holds I = cs.all (holds I) ∧ (or cs).holds I = cs.any (holds I) :=
  ⟨holds_not hI (leaves_any c), holds_and hI fun c _ => leaves_any c, holds_or hI fun c _ => leaves_any c⟩

end Criteria

/-- The document in which every field holds one text, which precedes all that it is compared with. -/
def Interpretation.ofText (s : String) : Interpretation where
  term _ v _ := v.looselyEqual (.string s)
  terms _ values _ _ := values.any (Value.looselyEqual · (.string s))
  range _ comparison _ _ := comparison.holds .lt
  present _ := true
  missing _ := false
  pattern _ _ _ := false
  analyzed _ v _ := v.looselyEqual (.string s)

theorem Interpretation.lawful_ofText (s : String) :
    (ofText s).Lawful (fun _ v => v.looselyEqual (.string s)) .any where
  congr _ _ h := Value.looselyEqual_string_congr h s
  term _ _ := rfl
  analyzed _ _ _ := rfl
  terms _ _ := rfl
  range comparison _ _ := comparison.holds_negate .lt
  missing _ _ := rfl

namespace Criteria

/-- In a document of texts `x`: nested disjunctions, equalities on one field, a negated order and a conjunction. -/
theorem holds_not_and_or_ofText :
    (Interpretation.ofText "x").Lawful (fun _ v => v.looselyEqual (.string "x")) .any ∧
    (let c := bool [] [] [present "a", range "a" .less (.int32 5) none]
    let cs := [disjunction [term "a" (.int32 1) none, negation matchAll, terms "a" [.int64 1, .string "x"] none none],
      negation c, bool [matchAll] [] [missing "b"]]
    (not c).holds (.ofText "x") = !c.holds (.ofText "x") ∧ (and cs).holds (.ofText "x") = cs.all (holds (.ofText "x")) ∧
      (or cs).holds (.ofText "x") = cs.any (holds (.ofText "x"))) :=
  ⟨Interpretation.lawful_ofText "x", holds_not_and_or _ _ (Interpretation.lawful_ofText "x") _ _⟩

end Criteria

end DocumentSearch
