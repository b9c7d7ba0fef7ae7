import DocumentSearch.Proofs.Criteria.Combine

/-!
# The canonical form of criteria

The combinators keep criteria in one short form (`canonical_not`, `canonical_and`, `canonical_or`), in which a
conjunction of criteria holds where all of them do, whatever the leaves mean (`holds_and_of_canonical`).
-/

namespace DocumentSearch.Criteria

/-! ### Shapes -/

/-- The criterion tests a field. -/
def isLeaf : Criteria → Bool
  | bool .. | negation _ | disjunction _ | matchAll => false
  | term .. | terms .. | range .. | present _ | missing _ | pattern .. | analyzed .. => true

/-- The negation of the criterion has a shorter form than `negation`. -/
def hasOpposite : Criteria → Bool
  | negation _ | range .. | present _ | missing _ | bool [] [] (_ :: _) => true
  | _ => false

/-- The criterion may be one of those that a conjunction requires. -/
def isConjunct : Criteria → Bool
  | bool .. | negation _ | matchAll => false
  | _ => true

/-- The criterion may be a clause of a disjunction. -/
def isAlternative : Criteria → Bool
  | disjunction _ | matchAll | negation matchAll => false
  | _ => true

/-- Criteria in the short form that the combinators build. -/
inductive Canonical : Criteria → Prop
  | leaf {c : Criteria} : c.isLeaf = true → Canonical c
  | matchAll : Canonical matchAll
  | negation {c : Criteria} : c.hasOpposite = false → Canonical c → Canonical (negation c)
  | bool {must mustNot : List Criteria} : 2 ≤ must.length + mustNot.length →
      (∀ c ∈ must, c.isConjunct = true) → (∀ c ∈ must, Canonical c) →
      (∀ c ∈ mustNot, c.hasOpposite = false) → (∀ c ∈ mustNot, Canonical c) → Canonical (bool must [] mustNot)
  | disjunction {clauses : List Criteria} : 2 ≤ clauses.length →
      (∀ c ∈ clauses, c.isAlternative = true) → (∀ c ∈ clauses, Canonical c) → Canonical (disjunction clauses)

theorem canonical_matchNone : matchNone.Canonical := .negation rfl .matchAll

/-! ### Disjunction -/

theorem allDisjuncts_eq (cs : List Criteria) : allDisjuncts cs = cs.flatMap disjuncts := by
  induction cs with
  | nil => rfl
  | cons c cs ih => rw [allDisjuncts, ih, List.flatMap_cons]

private theorem disjuncts_of_isAlternative {c : Criteria} (h : c.isAlternative = true) : disjuncts c = [c] := by
  cases c <;> first | rfl | cases h

private theorem allDisjuncts_of_isAlternative {cs : List Criteria} (h : ∀ c ∈ cs, c.isAlternative = true) :
    allDisjuncts cs = cs := by
  induction cs with
  | nil => rfl
  | cons c cs ih =>
    simp only [List.forall_mem_cons] at h
    rw [allDisjuncts, disjuncts_of_isAlternative h.1, ih h.2, List.singleton_append]

/-- What is left of a clause is canonical, and an alternative unless it decides the disjunction by itself. -/
private theorem canonical_of_mem_disjuncts {c d : Criteria} (hc : c.Canonical) (hd : d ∈ disjuncts c) :
    d.Canonical ∧ (d.isMatchAll = false → d.isMatchNone = false → d.isAlternative = true) := by
  cases hc with
  | leaf hleaf =>
    cases c <;> cases hleaf <;> cases List.mem_singleton.1 hd <;> exact ⟨.leaf rfl, fun _ _ => rfl⟩
  | matchAll => cases List.mem_singleton.1 hd; exact ⟨.matchAll, nofun⟩
  | @negation c hopposite hcanonical =>
    cases List.mem_singleton.1 hd
    refine ⟨.negation hopposite hcanonical, fun _ hnone => ?_⟩
    cases c <;> first | rfl | cases hnone
  | bool hlength hmust hmust' hmustNot hmustNot' =>
    cases List.mem_singleton.1 hd
    exact ⟨.bool hlength hmust hmust' hmustNot hmustNot', fun _ _ => rfl⟩
  | disjunction _ halternative hcanonical =>
    rw [disjuncts, allDisjuncts_of_isAlternative halternative] at hd
    exact ⟨hcanonical d hd, fun _ _ => halternative d hd⟩

theorem isLeaf_criterion (e : Equality) : e.criterion.isLeaf = true := by
  unfold Equality.criterion
  split <;> rfl

/-- What holds of all equalities and of all the criteria added holds of every clause. -/
private theorem forall_foldl_addClause {Q : Criteria → Prop} (hQ : ∀ e : Equality, Q e.criterion)
    {clauses : List Clause} {cs : List Criteria} (hcl : ∀ cl ∈ clauses, Q cl.criterion) (hcs : ∀ c ∈ cs, Q c) :
    ∀ cl ∈ cs.foldl addClause clauses, Q cl.criterion :=
  List.foldlRecOn (motive := fun clauses => ∀ cl ∈ clauses, Q cl.criterion) cs addClause hcl fun _ hcl c hc =>
    forall_addClause (Q := fun cl => Q cl.criterion) hcl (fun e _ => hQ e) (fun e e' _ _ _ => hQ (e'.absorb e))
      fun _ => hcs c hc

private theorem canonical_disjunctionOf {cs : List Criteria}
    (h : ∀ c ∈ cs, c.Canonical ∧ c.isAlternative = true) : (disjunctionOf cs).Canonical := by
  unfold disjunctionOf
  split
  · exact canonical_matchNone
  · exact (h _ (by simp)).1
  · rename_i hnil hsingle
    refine .disjunction ?_ (fun c hc => (h c hc).2) fun c hc => (h c hc).1
    match cs with
    | [] => exact absurd rfl hnil
    | [c] => exact absurd rfl (hsingle c)
    | _ :: _ :: _ => simp

theorem canonical_or {cs : List Criteria} (h : ∀ c ∈ cs, c.Canonical) : (or cs).Canonical := by
  simp only [or]
  split
  · exact .matchAll
  · rename_i hall
    refine canonical_disjunctionOf fun c hc => ?_
    obtain ⟨cl, hcl, rfl⟩ := List.mem_map.1 hc
    refine forall_foldl_addClause (Q := fun c => c.Canonical ∧ c.isAlternative = true) (fun e => ?_) (by simp)
      (fun d hd => ?_) cl hcl
    · have hleaf := isLeaf_criterion e
      exact ⟨.leaf hleaf, by cases he : e.criterion <;> simp_all [isLeaf, isAlternative]⟩
    · obtain ⟨hd, hnone⟩ := List.mem_filter.1 hd
      have hnotAll : d.isMatchAll = false := by
        simp only [List.any_eq_true, not_exists, not_and, Bool.not_eq_true] at hall
        exact hall d hd
      -- a clause comes from one of the criteria; it neither always holds nor never does
      rw [allDisjuncts_eq] at hd
      obtain ⟨c, hc, hdc⟩ := List.mem_flatMap.1 hd
      have := canonical_of_mem_disjuncts (h c hc) hdc
      exact ⟨this.1, this.2 hnotAll (by simpa using hnone)⟩

/-! ### Negation -/

theorem not_of_hasOpposite {c : Criteria} (h : c.hasOpposite = false) : not c = negation c := by
  unfold hasOpposite at h
  unfold not
  split at h <;> simp_all

theorem canonical_not {c : Criteria} (h : c.Canonical) : (not c).Canonical := by
  cases hopposite : c.hasOpposite with
  | false =>
    rw [not_of_hasOpposite hopposite]
    exact .negation hopposite h
  | true =>
    cases h with
    | leaf hleaf => cases c <;> cases hleaf <;> first | exact .leaf rfl | cases hopposite
    | matchAll => cases hopposite
    | negation _ hc => exact hc
    | @bool must mustNot _ _ _ _ hmustNot =>
      match must, mustNot with
      | [], _ :: _ => exact canonical_or hmustNot
    | disjunction => cases hopposite

/-! ### Conjunction -/

private theorem canonical_required {c : Criteria} (h : c.Canonical) :
    ∀ d ∈ required c, d.Canonical ∧ d.isConjunct = true := by
  cases h with
  | leaf hleaf => cases c <;> cases hleaf <;> simpa [required, isConjunct] using .leaf rfl
  | matchAll => simp [required]
  | negation => simp [required]
  | bool _ hconjunct hmust => exact fun d hd => ⟨hmust d hd, hconjunct d hd⟩
  | disjunction hlength halternative hclauses =>
    simpa [required, isConjunct] using .disjunction hlength halternative hclauses

private theorem canonical_excluded {c : Criteria} (h : c.Canonical) :
    ∀ d ∈ excluded c, d.Canonical ∧ d.hasOpposite = false := by
  cases h with
  | leaf hleaf => cases c <;> cases hleaf <;> simp [excluded]
  | matchAll => simp [excluded]
  | negation hopposite hc => simpa [excluded] using ⟨hc, hopposite⟩
  | bool _ _ _ hopposite hmustNot => exact fun d hd => ⟨hmustNot d hd, hopposite d hd⟩
  | disjunction => simp [excluded]

theorem canonical_and {cs : List Criteria} (h : ∀ c ∈ cs, c.Canonical) : (and cs).Canonical := by
  have hrequired : ∀ d ∈ cs.flatMap required, d.Canonical ∧ d.isConjunct = true :=
    List.forall_mem_flatMap.2 fun c hc => canonical_required (h c hc)
  have hexcluded : ∀ d ∈ cs.flatMap excluded, d.Canonical ∧ d.hasOpposite = false :=
    List.forall_mem_flatMap.2 fun c hc => canonical_excluded (h c hc)
  unfold and
  generalize cs.flatMap required = must at hrequired ⊢
  generalize cs.flatMap excluded = mustNot at hexcluded ⊢
  unfold conjunctionOf
  split
  · exact .matchAll
  · exact (hrequired _ (by simp)).1
  · exact canonical_not (hexcluded _ (by simp)).1
  · rename_i hnone hsingle hsingleNot
    -- two clauses or more are left, since the cases above took none and one
    refine .bool ?_ (fun d hd => (hrequired d hd).2) (fun d hd => (hrequired d hd).1)
      (fun d hd => (hexcluded d hd).2) fun d hd => (hexcluded d hd).1
    match must, mustNot with
    | [], [] => exact (hnone rfl rfl).elim
    | [c], [] => exact (hsingle c rfl rfl).elim
    | [], [c] => exact (hsingleNot c rfl rfl).elim
    | _ :: _ :: _, _ | _ :: _, _ :: _ | [], _ :: _ :: _ => simp only [List.length_cons]; omega

/-- What a conjunction requires and excludes can be read off it again. -/
private theorem required_conjunctionOf {must mustNot : List Criteria} (hmust : ∀ c ∈ must, c.isConjunct = true)
    (hmustNot : ∀ c ∈ mustNot, c.hasOpposite = false) :
    required (conjunctionOf must mustNot) = must ∧ excluded (conjunctionOf must mustNot) = mustNot := by
  unfold conjunctionOf
  split
  · exact ⟨rfl, rfl⟩
  · rename_i c
    have hc := hmust c (by simp)
    cases c <;> first | exact ⟨rfl, rfl⟩ | cases hc
  · rename_i c
    rw [not_of_hasOpposite (hmustNot c (by simp))]
    exact ⟨rfl, rfl⟩
  · exact ⟨rfl, rfl⟩

/-- A conjunction of canonical criteria requires and excludes what these do. -/
theorem required_and {cs : List Criteria} (h : ∀ c ∈ cs, c.Canonical) :
    required (and cs) = cs.flatMap required ∧ excluded (and cs) = cs.flatMap excluded :=
  required_conjunctionOf
    (List.forall_mem_flatMap.2 fun c hc d hd => (canonical_required (h c hc) d hd).2)
    (List.forall_mem_flatMap.2 fun c hc d hd => (canonical_excluded (h c hc) d hd).2)

/-- A conjunction among canonical criteria may as well be given by its parts. -/
theorem and_append_and (before after : List Criteria) {cs : List Criteria} (h : ∀ c ∈ cs, c.Canonical) :
    and (before ++ and cs :: after) = and (before ++ cs ++ after) := by
  obtain ⟨hrequired, hexcluded⟩ := required_and h
  unfold and at hrequired hexcluded ⊢
  simp only [List.flatMap_append, List.flatMap_cons, hrequired, hexcluded, List.append_assoc]

/-- The negations in canonical criteria stay as they are, so that a conjunction of such criteria needs no law about
leaves. -/
theorem holds_and_of_canonical (I : Interpretation) {cs : List Criteria} (h : ∀ c ∈ cs, c.Canonical) :
    (and cs).holds I = cs.all (holds I) := by
  refine holds_and_of_not fun c hc d hd => ?_
  rw [not_of_hasOpposite (canonical_excluded (h c hc) d hd).2, holds_negation]

end DocumentSearch.Criteria
