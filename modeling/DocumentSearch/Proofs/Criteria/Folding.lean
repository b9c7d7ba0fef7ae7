import Mathlib.Data.List.Nodup
import DocumentSearch.Proofs.Criteria.Disjunction
import DocumentSearch.Proofs.Criteria.Nodes

/-!
# What is left to fold

In the criterion of a predicate, at most two clauses of a disjunction ask for values of one field in its exact form
(`forall_disjunctions_ofPredicate`). There are two where values were compared both exactly and in analysed form: each
kind of equality becomes a clause of its own, and several analysed values become a `terms` just as exact ones do. Where
a predicate compares nothing in analysed form, there is one clause at most.

The clauses of a disjunction are told apart by their keys. So a condition on disjunctions needs to be shown only for
what `or` gathers from its operands (`kept_everyDisjunction`), and is then kept by all combinators.
-/

namespace DocumentSearch

namespace Criteria

/-! ### Clauses on one field -/

/-- The field that the criterion asks for one of some values, if it leaves to the engine how to look for them. -/
def exactField? : Criteria → Option String
  | term field _ _ | terms field _ none _ => some field
  | _ => none

/-- No two clauses ask for values of one field. -/
def IsFolded (clauses : List Criteria) : Prop := (clauses.filterMap exactField?).Nodup

/-- At most two clauses ask for values of a field, and if there are two, one of them asks for several values. -/
def IsFoldedByKind (clauses : List Criteria) : Prop :=
  ∀ field, (clauses.filterMap exactField?).count field ≤ 1 ∨
    (clauses.filterMap exactField?).count field = 2 ∧
      ∃ values member, terms field values none member ∈ clauses ∧ 2 ≤ values.length

/-- The condition holds of the clauses of every disjunction in the criterion. -/
def EveryDisjunction (F : List Criteria → Prop) (c : Criteria) : Prop :=
  ∀ clauses, disjunction clauses ∈ c.nodes → F clauses

private theorem exactField?_eq_none {c : Criteria} (h : c.equality? = none) : c.exactField? = none := by
  cases c with
  | term => cases h
  | terms _ _ execution _ => cases execution <;> first | rfl | cases h
  | range | present | missing | pattern | analyzed | bool | negation | disjunction | matchAll => rfl

/-- The criterion of an analysed equality asks for exact values if it has several. -/
private theorem criterion_of_exactField? {e : Equality} {field : String} (h : e.criterion.exactField? = some field) :
    e.field = field ∧
      (e.kind = .analyzed → e.values.length ≠ 1 ∧ e.criterion = terms field e.values none e.member) := by
  obtain ⟨field', kind, values, member⟩ := e
  unfold Equality.criterion at h ⊢
  split at h
  · rename_i hkind hvalues
    cases hkind
    exact ⟨Option.some.inj h, nofun⟩
  · cases h
  · rename_i hexact hanalyzed
    cases h
    refine ⟨rfl, fun hkind => ⟨fun hlength => ?_, rfl⟩⟩
    obtain ⟨v, rfl⟩ := List.length_eq_one_iff.1 hlength
    exact hanalyzed v hkind rfl

variable {cs : List Criteria}

/-- A clause on a field has one of the two keys of the field. -/
private theorem key?_of_exactField? {cl : Clause} (hcl : cl ∈ clausesOf cs) {field : String}
    (h : cl.criterion.exactField? = some field) :
    cl.key? = some (field, .exact) ∨ cl.key? = some (field, .analyzed) := by
  cases cl with
  | other c =>
    rw [Clause.criterion, exactField?_eq_none (mem_of_other_mem_foldl_addClause hcl).2] at h
    cases h
  | equality e =>
    obtain ⟨rfl, -⟩ := criterion_of_exactField? h
    cases hk : e.kind <;> simp [Clause.key?, Equality.key, hk]

private theorem countP_key?_le_one (cs : List Criteria) (key : String × EqualityKind) :
    (clausesOf cs).countP (fun cl => cl.key? == some key) ≤ 1 := by
  have hkeys := List.nodup_iff_count_le_one.1 (nodup_keysOf_foldl_addClause (keptDisjuncts cs)) key
  rwa [keysOf, List.count_filterMap] at hkeys

private theorem countP_le_add {α : Type} {p q r : α → Bool} {l : List α}
    (h : ∀ x ∈ l, p x = true → q x = true ∨ r x = true) : l.countP p ≤ l.countP q + l.countP r := by
  induction l with
  | nil => simp
  | cons x l ih =>
    obtain ⟨hx, hl⟩ := List.forall_mem_cons.1 h
    specialize ih hl
    rw [List.countP_cons, List.countP_cons, List.countP_cons]
    by_cases hp : p x = true
    · rcases hx hp with hq | hr
      · rw [if_pos hp, if_pos hq]
        omega
      · rw [if_pos hp, if_pos hr]
        omega
    · rw [if_neg hp]
      omega

/-- An analysed equality has a value, since it starts with one. -/
private theorem ne_nil_of_analyzed {e : Equality} (he : .equality e ∈ clausesOf cs) (hkind : e.kind = .analyzed) :
    e.values ≠ [] := by
  refine forall_mem_foldl_addClause (Q := fun cl => ∀ e, cl = .equality e → e.kind = .analyzed → e.values ≠ [])
    (fun c _ e he e' heq hkind => ?_) (fun _ _ e e' _ h _ a heq hkind hnil => ?_) (fun _ _ _ _ => nofun) _ he e rfl
    hkind
  · cases heq
    unfold equality? at he
    split at he <;> cases he
    · cases hkind
    · cases hkind
    · exact List.cons_ne_nil _ _
  · cases heq
    refine h e' rfl hkind (List.eq_nil_of_subset_nil ?_)
    rw [← hnil]
    exact subset_foldl_addValue e'.values e.values

/-! ### Clauses that are gathered -/

private theorem count_exactField? (cs : List Criteria) (field : String) :
    (((clausesOf cs).map Clause.criterion).filterMap exactField?).count field =
      (clausesOf cs).countP fun cl => cl.criterion.exactField? == some field := by
  rw [List.count_filterMap, List.countP_map]
  rfl

private theorem isFoldedByKind_clausesOf (cs : List Criteria) :
    IsFoldedByKind ((clausesOf cs).map Clause.criterion) := by
  intro field
  rw [count_exactField?]
  have hexact := countP_key?_le_one cs (field, .exact)
  have hanalyzed := countP_key?_le_one cs (field, .analyzed)
  by_cases hseveral : ∃ cl ∈ clausesOf cs,
      cl.criterion.exactField? = some field ∧ cl.key? = some (field, .analyzed)
  · obtain ⟨cl, hcl, hfield, hkey⟩ := hseveral
    have hcount : (clausesOf cs).countP (fun cl => cl.criterion.exactField? == some field) ≤
        (clausesOf cs).countP (fun cl => cl.key? == some (field, .exact)) +
          (clausesOf cs).countP (fun cl => cl.key? == some (field, .analyzed)) :=
      countP_le_add fun cl hcl h => by simpa using key?_of_exactField? hcl (by simpa using h)
    have hterms : ∃ values member, terms field values none member ∈ (clausesOf cs).map Clause.criterion ∧
        2 ≤ values.length := by
      cases cl with
      | other c => cases hkey
      | equality e =>
        have hkind : e.kind = .analyzed := congrArg Prod.snd (Option.some.inj hkey)
        obtain ⟨hlength, hcriterion⟩ := (criterion_of_exactField? hfield).2 hkind
        have hpos := List.length_pos_iff.2 (ne_nil_of_analyzed hcl hkind)
        exact ⟨e.values, e.member, List.mem_map.2 ⟨_, hcl, hcriterion⟩, by omega⟩
    by_cases htwo : (clausesOf cs).countP (fun cl => cl.criterion.exactField? == some field) ≤ 1
    · exact .inl htwo
    · exact .inr ⟨by omega, hterms⟩
  · -- all clauses on the field are exact
    refine .inl (Nat.le_trans (List.countP_mono_left fun cl hcl h => ?_) hexact)
    rw [beq_iff_eq] at h ⊢
    exact (key?_of_exactField? hcl h).resolve_right fun hkey => hseveral ⟨cl, hcl, h, hkey⟩

private theorem isFolded_clausesOf (hcs : ∀ c ∈ cs, c.Leaves (.compiledWith True False)) :
    IsFolded ((clausesOf cs).map Clause.criterion) := by
  refine List.nodup_iff_count_le_one.2 fun field => ?_
  rw [count_exactField?]
  refine Nat.le_trans (List.countP_mono_left fun cl hcl h => ?_) (countP_key?_le_one cs (field, .exact))
  rw [beq_iff_eq] at h ⊢
  refine (key?_of_exactField? hcl h).resolve_right fun hkey => ?_
  cases cl with
  | other c => cases hkey
  | equality e =>
    have hleaves : Equality.Leaves (.compiledWith True False) e := leaves_clausesOf hcs _ hcl
    exact hleaves.2.2 (congrArg Prod.snd (Option.some.inj hkey))

/-! ### Disjunctions in a criterion -/

variable {F : List Criteria → Prop}

theorem everyDisjunction_of_isLeaf {c : Criteria} (h : c.isLeaf = true) : c.EveryDisjunction F := by
  intro clauses hmem
  rw [nodes_of_isLeaf h, List.mem_singleton] at hmem
  cases hmem
  cases h

theorem everyDisjunction_matchAll : matchAll.EveryDisjunction F := by
  simp [EveryDisjunction, nodes]

theorem everyDisjunction_negation {c : Criteria} : (negation c).EveryDisjunction F ↔ c.EveryDisjunction F := by
  simp [EveryDisjunction, nodes]

theorem everyDisjunction_disjunction {clauses : List Criteria} :
    (disjunction clauses).EveryDisjunction F ↔ F clauses ∧ ∀ c ∈ clauses, c.EveryDisjunction F := by
  simp only [EveryDisjunction, nodes, List.mem_cons, disjunction.injEq, mem_nodesOfAll]
  constructor
  · exact fun h => ⟨h clauses (.inl rfl), fun c hc clauses' hmem => h clauses' (.inr ⟨c, hc, hmem⟩)⟩
  · rintro ⟨hF, h⟩ clauses' (rfl | ⟨c, hc, hmem⟩)
    · exact hF
    · exact h c hc clauses' hmem

theorem everyDisjunction_bool {must should mustNot : List Criteria} :
    (bool must should mustNot).EveryDisjunction F ↔ (∀ c ∈ must, c.EveryDisjunction F) ∧
      (∀ c ∈ should, c.EveryDisjunction F) ∧ ∀ c ∈ mustNot, c.EveryDisjunction F := by
  simp only [EveryDisjunction, nodes, List.mem_cons, reduceCtorEq, false_or, List.mem_append, mem_nodesOfAll]
  constructor
  · exact fun h => ⟨fun c hc clauses hmem => h clauses (.inl (.inl ⟨c, hc, hmem⟩)),
      fun c hc clauses hmem => h clauses (.inl (.inr ⟨c, hc, hmem⟩)),
      fun c hc clauses hmem => h clauses (.inr ⟨c, hc, hmem⟩)⟩
  · rintro ⟨hmust, hshould, hmustNot⟩ clauses ((⟨c, hc, hmem⟩ | ⟨c, hc, hmem⟩) | ⟨c, hc, hmem⟩)
    · exact hmust c hc clauses hmem
    · exact hshould c hc clauses hmem
    · exact hmustNot c hc clauses hmem

private theorem everyDisjunction_clausesOf (h : ∀ c ∈ cs, c.EveryDisjunction F) :
    ∀ cl ∈ clausesOf cs, cl.criterion.EveryDisjunction F := by
  intro cl hcl
  cases cl with
  | equality e => exact everyDisjunction_of_isLeaf (isLeaf_criterion e)
  | other c =>
    have hc := (List.mem_filter.1 (mem_of_other_mem_foldl_addClause hcl).1).1
    exact forall_mem_allDisjuncts (fun h => (everyDisjunction_disjunction.1 h).2) h c hc

private theorem everyDisjunction_or (hF : F ((clausesOf cs).map Clause.criterion))
    (h : ∀ c ∈ cs, c.EveryDisjunction F) : (or cs).EveryDisjunction F := by
  cases hmatch : (allDisjuncts cs).any isMatchAll with
  | true => rw [or_of_any_isMatchAll hmatch]; exact everyDisjunction_matchAll
  | false =>
    rw [or_eq_disjunctionOf hmatch]
    have hclauses := List.forall_mem_map.2 (everyDisjunction_clausesOf h)
    unfold disjunctionOf
    split
    · exact everyDisjunction_negation.2 everyDisjunction_matchAll
    · rename_i c heq
      exact hclauses c (by simp [heq])
    · exact everyDisjunction_disjunction.2 ⟨hF, hclauses⟩

variable {P : LeafCondition}

private theorem everyDisjunction_not
    (hor : ∀ cs : List Criteria, (∀ c ∈ cs, c.Leaves P) → F ((clausesOf cs).map Clause.criterion)) {c : Criteria}
    (hleaves : c.Leaves P) (h : c.EveryDisjunction F) : (not c).EveryDisjunction F := by
  unfold not
  split
  · exact everyDisjunction_negation.1 h
  · exact everyDisjunction_of_isLeaf rfl
  · exact everyDisjunction_of_isLeaf rfl
  · exact everyDisjunction_of_isLeaf rfl
  · exact everyDisjunction_or (hor _ (leaves_bool.1 hleaves).2.2) (everyDisjunction_bool.1 h).2.2
  · exact everyDisjunction_negation.2 h

private theorem everyDisjunction_required {c : Criteria} (h : c.EveryDisjunction F) :
    ∀ d ∈ required c, d.EveryDisjunction F := by
  unfold required
  split
  · simp
  · simp
  · exact (everyDisjunction_bool.1 h).1
  · simpa using h

private theorem everyDisjunction_excluded {c : Criteria} (h : c.EveryDisjunction F) :
    ∀ d ∈ excluded c, d.EveryDisjunction F := by
  unfold excluded
  split
  · simpa using everyDisjunction_negation.1 h
  · exact (everyDisjunction_bool.1 h).2.2
  · simp

private theorem everyDisjunction_and
    (hor : ∀ cs : List Criteria, (∀ c ∈ cs, c.Leaves P) → F ((clausesOf cs).map Clause.criterion))
    (hleaves : ∀ c ∈ cs, c.Leaves P) (h : ∀ c ∈ cs, c.EveryDisjunction F) : (and cs).EveryDisjunction F := by
  have hmust : ∀ d ∈ cs.flatMap required, d.EveryDisjunction F :=
    List.forall_mem_flatMap.2 fun c hc => everyDisjunction_required (h c hc)
  have hmustNot : ∀ d ∈ cs.flatMap excluded, d.Leaves P ∧ d.EveryDisjunction F :=
    List.forall_mem_flatMap.2 fun c hc d hd =>
      ⟨leaves_excluded (hleaves c hc) d hd, everyDisjunction_excluded (h c hc) d hd⟩
  unfold and
  generalize cs.flatMap required = must at hmust ⊢
  generalize cs.flatMap excluded = mustNot at hmustNot ⊢
  unfold conjunctionOf
  split
  · exact everyDisjunction_matchAll
  · exact hmust _ (by simp)
  · obtain ⟨hleaves, h⟩ := hmustNot _ (List.mem_singleton_self _)
    exact everyDisjunction_not hor hleaves h
  · exact everyDisjunction_bool.2 ⟨hmust, by simp, fun d hd => (hmustNot d hd).2⟩

/-- A condition that holds of the clauses that are gathered from any operands is kept by the combinators. The operands
may be required to have leaves of some kind. -/
theorem kept_everyDisjunction
    (hor : ∀ cs : List Criteria, (∀ c ∈ cs, c.Leaves P) → F ((clausesOf cs).map Clause.criterion)) :
    Kept fun c => c.Leaves P ∧ c.EveryDisjunction F where
  matchAll := ⟨leaves_matchAll, everyDisjunction_matchAll⟩
  matchNone := ⟨leaves_matchNone, everyDisjunction_negation.2 everyDisjunction_matchAll⟩
  not h := ⟨leaves_not h.1, everyDisjunction_not hor h.1 h.2⟩
  and h := ⟨leaves_and fun c hc => (h c hc).1,
    everyDisjunction_and hor (fun c hc => (h c hc).1) fun c hc => (h c hc).2⟩
  or h := ⟨leaves_or fun c hc => (h c hc).1,
    everyDisjunction_or (hor _ fun c hc => (h c hc).1) fun c hc => (h c hc).2⟩

/-! ### Predicates -/

variable {mapping : Mapping} {source : String} {c : Criteria}

/-- In the criterion of a predicate, a disjunction has at most two clauses that ask for values of one field, one of
which asks for several if there are two. It has at most one if no field is a text and no equality disregards letter
case. -/
theorem forall_disjunctions_ofPredicate {p : Expr} (h : ofPredicate mapping source p = .ok c) :
    c.EveryDisjunction IsFoldedByKind ∧
      ((∀ field, mapping.fieldType? field ≠ some "text") → (∀ s ∈ p.nodes, s.disregardsCase = false) →
        c.EveryDisjunction IsFolded) := by
  constructor
  · have hkept := kept_everyDisjunction (P := .any) fun cs _ => isFoldedByKind_clausesOf cs
    refine (ofPredicate_induction hkept (fun s _ d hd => ⟨leaves_any d, ?_⟩) h).2
    exact everyDisjunction_of_isLeaf (isLeaf_of_leafFor hd)
  · intro htypes hp
    have hkept := kept_everyDisjunction (P := .compiledWith True False) fun cs hcs => isFolded_clausesOf hcs
    refine (ofPredicate_induction hkept (fun s hs d hd => ?_) h).2
    have hleaf : d.IsLeafOf (.compiledWith True False) :=
      isLeafOf_of_leafFor hd (fun _ => trivial) htypes (by simp [hp s hs])
    exact ⟨hleaf.2, everyDisjunction_of_isLeaf hleaf.1⟩

/-- One name or another, spelled in several ways, where names are keywords. -/
theorem forall_disjunctions_ofPredicate_user :
    let user : Expr := .parameter ⟨"w", "WebUser"⟩
    let name : Expr := .member user ⟨"name", .named "WebUser", .string⟩
    let age : Expr := .member user ⟨"age", .named "WebUser", .nullable .int32⟩
    let excluded : Expr := .binary (.binary name .notEqual (.constant (.string "Ana"))) .and
      (.binary (.constant (.int32 21)) .notEqual age)
    let listed : Expr := .staticCall ⟨"contains_any", .search⟩ [name, .constant (.array [.string "Ana", .string "Eva"])]
    let spelled : Expr := .call name ⟨"equals", .string⟩ [.constant (.string "Ida"), .constant (.string "ordinal")]
    let p : Expr := .binary (.binary (.unary .not excluded) .or listed) .or spelled
    let mapping := (DocumentMapping.toMapping { options := .plain, fieldTypes := [("name", "keyword")] }).withReserved
    (∀ field, mapping.fieldType? field ≠ some "text") ∧ (∀ s ∈ p.nodes, s.disregardsCase = false) ∧
      ∃ c, ofPredicate mapping "WebUser" p = .ok c ∧ c.EveryDisjunction IsFoldedByKind ∧
        c.EveryDisjunction IsFolded := by
  intro user name age excluded listed spelled p mapping
  have htypes : ∀ field, mapping.fieldType? field ≠ some "text" := by
    intro field htext
    have hget : Members.get? [("name", "keyword")] field = some "text" := htext
    simp only [Members.get?, List.lookup_cons, List.lookup_nil] at hget
    split at hget <;> simp at hget
  have hp : ∀ s ∈ p.nodes, s.disregardsCase = false := by decide
  obtain ⟨c, hc⟩ : ∃ c, ofPredicate mapping "WebUser" p = .ok c := ⟨_, rfl⟩
  obtain ⟨hkinds, hfolded⟩ := forall_disjunctions_ofPredicate hc
  exact ⟨htypes, hp, c, hc, hkinds, hfolded htypes hp⟩

/-- One name compared exactly and two in a mode that disregards letter case: two clauses are left on the field. -/
theorem not_isFolded_of_disregardsCase :
    let name : Expr := .member (.parameter ⟨"w", "WebUser"⟩) ⟨"name", .named "WebUser", .string⟩
    let like (s : String) : Expr :=
      .call name ⟨"equals", .string⟩ [.constant (.string s), .constant (.string "ignore_case")]
    let p : Expr := .binary (.binary (.binary name .equal (.constant (.string "a"))) .or (like "b")) .or (like "c")
    let mapping : DocumentMapping := { options := .plain }
    ∃ c, ofPredicate mapping.toMapping.withReserved "WebUser" p = .ok c ∧ ¬ c.EveryDisjunction IsFolded := by
  intro name like p mapping
  let member : Member := ⟨"name", .named "WebUser", .string⟩
  refine ⟨disjunction [term "name" (.string "a") member, terms "name" [.string "b", .string "c"] none member], rfl,
    fun h => ?_⟩
  have hfolded := h _ List.mem_cons_self
  revert hfolded
  unfold IsFolded
  decide

end Criteria

end DocumentSearch
