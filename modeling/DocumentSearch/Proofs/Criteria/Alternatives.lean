import DocumentSearch.Proofs.Criteria.Disjunction
import DocumentSearch.Proofs.Value.LooseEquality

/-!
# What a disjunction still asks for

A disjunction does not ask for a value where it asks for a loosely equal one. Content that is found by the value is
then found by the other one, if the value is sharp (`exists_mem_disjuncts_or`). By a float that two integers are rounded
to, both of them are found; where one of them is asked for in its place, the other is lost (`exists_lost_of_rounded`).

No clause ever loses a value (`exists_subset_of_mem`), and so what has been added once stays represented.
-/

namespace DocumentSearch

/-- No object among the values that leaves ask for has two members of one name. -/
def LeafCondition.distinct : LeafCondition where
  equals _ v := v.Distinct

namespace Criteria

/-! ### Values that stand for others -/

/-- The clause with this key has the value, or one that is loosely equal to it. -/
def Represents (clauses : List Clause) (key : String × EqualityKind) (v : Value) : Prop :=
  ∃ a, .equality a ∈ clauses ∧ a.key = key ∧ ∃ w ∈ a.values, w = v ∨ w.looselyEqual v = true

variable {clauses : List Clause} {key : String × EqualityKind} {v : Value}

/-- A clause keeps its values where an equality is added. -/
private theorem exists_subset_of_mem {a : Equality} (h : .equality a ∈ clauses) (e : Equality) :
    ∃ a', .equality a' ∈ addEquality clauses e ∧ a'.key = a.key ∧ a.values ⊆ a'.values := by
  induction clauses with
  | nil => cases h
  | cons cl rest ih =>
    cases cl with
    | other c =>
      obtain ⟨a', ha', hvalues⟩ := ih ((List.mem_cons.1 h).resolve_left nofun)
      exact ⟨a', List.mem_cons_of_mem _ ha', hvalues⟩
    | equality b =>
      by_cases hkey : b.key = e.key
      · rw [addEquality_of_key_eq hkey]
        rcases List.mem_cons.1 h with heq | h
        · cases heq
          exact ⟨a.absorb e, List.mem_cons_self, rfl, subset_foldl_addValue a.values e.values⟩
        · exact ⟨a, List.mem_cons_of_mem _ h, rfl, List.Subset.refl _⟩
      · rw [addEquality_of_key_ne hkey]
        rcases List.mem_cons.1 h with heq | h
        · cases heq
          exact ⟨a, List.mem_cons_self, rfl, List.Subset.refl _⟩
        · obtain ⟨a', ha', hvalues⟩ := ih h
          exact ⟨a', List.mem_cons_of_mem _ ha', hvalues⟩

private theorem represents_addEquality_self {e : Equality} (h : v ∈ e.values) (clauses : List Clause) :
    Represents (addEquality clauses e) e.key v := by
  induction clauses with
  | nil => exact ⟨e, List.mem_singleton_self _, rfl, v, h, .inl rfl⟩
  | cons cl rest ih =>
    cases cl with
    | other c =>
      obtain ⟨a, ha, hvalues⟩ := ih
      exact ⟨a, List.mem_cons_of_mem _ ha, hvalues⟩
    | equality b =>
      by_cases hkey : b.key = e.key
      · rw [addEquality_of_key_eq hkey]
        exact ⟨b.absorb e, List.mem_cons_self, hkey, exists_mem_foldl_addValue b.values h⟩
      · rw [addEquality_of_key_ne hkey]
        obtain ⟨a, ha, hvalues⟩ := ih
        exact ⟨a, List.mem_cons_of_mem _ ha, hvalues⟩

private theorem represents_addClause (h : Represents clauses key v) (c : Criteria) :
    Represents (addClause clauses c) key v := by
  obtain ⟨a, ha, hkey, w, hw, hwv⟩ := h
  unfold addClause
  split
  · rename_i e _
    obtain ⟨a', ha', hkey', hvalues⟩ := exists_subset_of_mem ha e
    exact ⟨a', ha', hkey'.trans hkey, w, hvalues hw, hwv⟩
  · exact ⟨a, List.mem_append_left _ ha, hkey, w, hw, hwv⟩

/-- What one of the criteria asks for is represented in the end, since no clause loses a value. -/
theorem represents_foldl_addClause {cs : List Criteria} {c : Criteria} {e : Equality} (hc : c ∈ cs)
    (he : c.equality? = some e) (hv : v ∈ e.values) (clauses : List Clause) :
    Represents (cs.foldl addClause clauses) e.key v := by
  refine foldl_addClause_of_mem (Q := fun clauses => Represents clauses e.key v) hc (fun clauses => ?_)
    (fun _ d h => represents_addClause h d) clauses
  rw [addClause, he]
  exact represents_addEquality_self hv _

/-! ### Content that is looked for -/

/-- Content that one of the disjuncts finds by a sharp value is found by a clause of the disjunction on the same field,
by this value or by one that is there in its place. -/
theorem exists_mem_disjuncts_or {cs : List Criteria} (hdistinct : ∀ c ∈ cs, c.Leaves .distinct)
    (hmatch : (allDisjuncts cs).any isMatchAll = false) {c : Criteria} (hc : c ∈ allDisjuncts cs) {e : Equality}
    (he : c.equality? = some e) {v : Value} (hv : v ∈ e.values) (hsharp : v.Sharp) {content : Value}
    (hcontent : content.looselyEqual v = true) :
    ∃ c' ∈ disjuncts (or cs), ∃ e', c'.equality? = some e' ∧ e'.field = e.field ∧
      ∃ w ∈ e'.values, content.looselyEqual w = true := by
  have hkept : c ∈ keptDisjuncts cs := by
    refine List.mem_filter.2 ⟨hc, ?_⟩
    cases c <;> first | rfl | cases he
  obtain ⟨a, ha, hkey, w, hw, hwv⟩ : Represents (clausesOf cs) e.key v := represents_foldl_addClause hkept he hv []
  obtain ⟨kind, ha', -⟩ := exists_equality?_criterion a
  refine ⟨a.criterion, ?_, _, ha', congrArg Prod.fst hkey, w, hw, ?_⟩
  · rw [disjuncts_or hmatch, if_neg (List.ne_nil_of_mem ha)]
    exact List.mem_map.2 ⟨_, ha, rfl⟩
  · rcases hwv with rfl | hwv
    · exact hcontent
    · -- the content, the value and the one that stands for it are a chain
      have hleaves : Equality.Leaves .distinct a := leaves_clausesOf hdistinct _ ha
      exact Value.looselyEqual_trans hsharp hcontent (Value.looselyEqual_symm (hleaves.2.1 w hw) hwv)

/-- An age that is looked for as a float among the same age in other kinds of numbers, and found as an integer. -/
theorem exists_mem_disjuncts_or_age :
    let age (v : Value) : Criteria := term "age" v none
    let cs := [age (.int32 3), disjunction [age (.float 3), negation matchAll], present "name",
      terms "age" [.int64 3, .int64 4] none none]
    (∀ c ∈ cs, c.Leaves .distinct) ∧ (allDisjuncts cs).any isMatchAll = false ∧ age (.float 3) ∈ allDisjuncts cs ∧
      (Value.float 3).Sharp ∧ (Value.int64 3).looselyEqual (.float 3) = true ∧
      ∃ c' ∈ disjuncts (or cs), ∃ e', c'.equality? = some e' ∧ e'.field = "age" ∧
        ∃ w ∈ e'.values, (Value.int64 3).looselyEqual w = true := by
  intro age cs
  have hdistinct : ∀ c ∈ cs, c.Leaves .distinct := by
    simp [cs, age, Leaves, AllLeaves, LeafCondition.distinct, Value.Distinct]
  have hmatch : (allDisjuncts cs).any isMatchAll = false := rfl
  have hc : age (.float 3) ∈ allDisjuncts cs := by simp [cs, allDisjuncts, disjuncts]
  have hsharp : (Value.float 3).Sharp := Value.sharp_ofInt (k := 3) (by decide) (by decide)
  have hcontent : (Value.int64 3).looselyEqual (.float 3) = true := by decide
  exact ⟨hdistinct, hmatch, hc, hsharp, hcontent,
    exists_mem_disjuncts_or hdistinct hmatch hc rfl (List.mem_singleton_self _) hsharp hcontent⟩

/-- The integer after 2^53 is found by the float 2^53, and lost where the integer 2^53 is asked for in its place. -/
theorem exists_lost_of_rounded :
    let n (v : Value) : Criteria := term "n" v none
    let cs := [n (.int64 9007199254740992), n (.float 9007199254740992)]
    let content : Value := .int64 9007199254740993
    (allDisjuncts cs).any isMatchAll = false ∧ content.looselyEqual (.float 9007199254740992) = true ∧
      disjuncts (or cs) = [n (.int64 9007199254740992)] ∧ content.looselyEqual (.int64 9007199254740992) = false := by
  intro n cs content
  exact ⟨rfl, by decide, rfl, rfl⟩

end Criteria

end DocumentSearch
