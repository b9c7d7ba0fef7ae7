import DocumentSearch.Proofs.Criteria.Canonical

/-!
# How a disjunction is put together

The criteria of a disjunction are gathered into clauses (`clausesOf`). Of equalities there is one clause for each field
and kind, its key (`nodup_keysOf_foldl_addClause`), and any other criterion is a clause of its own. The clauses of the
disjunction are the criteria of these (`disjuncts_or`).
-/

namespace DocumentSearch.Criteria

/-! ### Values -/

/-- A value that has been added is there, or one that is loosely equal to it. -/
theorem exists_mem_addValue (values : List Value) (v : Value) :
    ∃ w ∈ Equality.addValue values v, w = v ∨ w.looselyEqual v = true := by
  unfold Equality.addValue
  split
  · rename_i h
    obtain ⟨w, hw, hwv⟩ := List.any_eq_true.1 h
    exact ⟨w, hw, .inr hwv⟩
  · exact ⟨v, by simp, .inl rfl⟩

theorem subset_foldl_addValue (values added : List Value) : values ⊆ added.foldl Equality.addValue values := by
  induction added generalizing values with
  | nil => exact List.Subset.refl values
  | cons v added ih =>
    have hstep : values ⊆ Equality.addValue values v := by
      unfold Equality.addValue
      split
      · exact List.Subset.refl values
      · exact List.subset_append_left values [v]
    exact List.Subset.trans hstep (ih _)

theorem exists_mem_foldl_addValue (values : List Value) {added : List Value} {v : Value} (h : v ∈ added) :
    ∃ w ∈ added.foldl Equality.addValue values, w = v ∨ w.looselyEqual v = true := by
  induction added generalizing values with
  | nil => cases h
  | cons u added ih =>
    rcases List.mem_cons.1 h with rfl | h
    · obtain ⟨w, hw, hwv⟩ := exists_mem_addValue values v
      exact ⟨w, subset_foldl_addValue _ added hw, hwv⟩
    · exact ih _ h

/-- No value is loosely equal to an earlier one, if that is so of the values at the start. -/
theorem pairwise_foldl_addValue {values : List Value} (h : values.Pairwise fun v w => v.looselyEqual w = false)
    (added : List Value) : (added.foldl Equality.addValue values).Pairwise fun v w => v.looselyEqual w = false := by
  induction added generalizing values with
  | nil => exact h
  | cons v added ih =>
    refine ih ?_
    unfold Equality.addValue
    split
    · exact h
    · rename_i hnew
      rw [List.any_eq_true] at hnew
      refine List.pairwise_append.2 ⟨h, List.pairwise_singleton _ v, fun w hw u hu => ?_⟩
      obtain rfl := List.mem_singleton.1 hu
      exact Bool.eq_false_iff.2 fun hwu => hnew ⟨w, hw, hwu⟩

/-! ### Keys of clauses -/

/-- Equalities are joined where their fields and kinds agree. -/
def Equality.key (e : Equality) : String × EqualityKind := (e.field, e.kind)

@[simp] theorem Equality.key_absorb (a b : Equality) : (a.absorb b).key = a.key := rfl

private theorem joins_iff_key {a b : Equality} : a.joins b = true ↔ a.key = b.key := by
  simp [Equality.joins, Equality.key]

theorem addEquality_of_key_eq {a b : Equality} (h : a.key = b.key) (rest : List Clause) :
    addEquality (.equality a :: rest) b = .equality (a.absorb b) :: rest := by
  rw [addEquality, if_pos (joins_iff_key.2 h)]

theorem addEquality_of_key_ne {a b : Equality} (h : a.key ≠ b.key) (rest : List Clause) :
    addEquality (.equality a :: rest) b = .equality a :: addEquality rest b := by
  rw [addEquality, if_neg (mt joins_iff_key.1 h)]

/-- The key of a clause that is an equality. -/
def Clause.key? : Clause → Option (String × EqualityKind)
  | equality e => some e.key
  | other _ => none

/-- The keys of the clauses from left to right. -/
def keysOf (clauses : List Clause) : List (String × EqualityKind) := clauses.filterMap Clause.key?

@[simp] theorem keysOf_equality_cons (e : Equality) (rest : List Clause) :
    keysOf (.equality e :: rest) = e.key :: keysOf rest := rfl

@[simp] theorem keysOf_other_cons (c : Criteria) (rest : List Clause) : keysOf (.other c :: rest) = keysOf rest := rfl

@[simp] theorem keysOf_append (clauses clauses' : List Clause) :
    keysOf (clauses ++ clauses') = keysOf clauses ++ keysOf clauses' :=
  List.filterMap_append

theorem mem_keysOf {clauses : List Clause} {key : String × EqualityKind} :
    key ∈ keysOf clauses ↔ ∃ e, .equality e ∈ clauses ∧ e.key = key := by
  rw [keysOf, List.mem_filterMap]
  constructor
  · rintro ⟨cl, hcl, hkey⟩
    cases cl with
    | equality e => exact ⟨e, hcl, Option.some.inj hkey⟩
    | other c => cases hkey
  · rintro ⟨e, he, rfl⟩
    exact ⟨.equality e, he, rfl⟩

/-- The key of an equality that is added comes last, unless it is there. -/
theorem keysOf_addEquality (clauses : List Clause) (e : Equality) :
    keysOf (addEquality clauses e) = if e.key ∈ keysOf clauses then keysOf clauses else keysOf clauses ++ [e.key] := by
  induction clauses with
  | nil => rfl
  | cons cl rest ih =>
    cases cl with
    | other c => exact ih
    | equality e' =>
      by_cases hkey : e'.key = e.key
      · have hmem : e.key ∈ keysOf (.equality e' :: rest) := List.mem_cons.2 (.inl hkey.symm)
        rw [addEquality_of_key_eq hkey, if_pos hmem]
        rfl
      · rw [addEquality_of_key_ne hkey, keysOf_equality_cons, keysOf_equality_cons, ih]
        simp only [List.mem_cons, Ne.symm hkey, false_or]
        split <;> rfl

theorem nodup_keysOf_addClause {clauses : List Clause} (h : (keysOf clauses).Nodup) (c : Criteria) :
    (keysOf (addClause clauses c)).Nodup := by
  unfold addClause
  split
  · rename_i e _
    rw [keysOf_addEquality]
    split
    · exact h
    · rename_i hkey
      refine List.nodup_append.2 ⟨h, by simp, fun key hmem key' hmem' heq => hkey ?_⟩
      rwa [← List.mem_singleton.1 hmem', ← heq]
  · have hother : keysOf [.other c] = [] := rfl
    rwa [keysOf_append, hother, List.append_nil]

/-! ### Gathering criteria -/

theorem nodup_keysOf_foldl_addClause (cs : List Criteria) : (keysOf (cs.foldl addClause [])).Nodup :=
  List.foldlRecOn (motive := fun clauses => (keysOf clauses).Nodup) cs addClause List.nodup_nil
    fun _ h c _ => nodup_keysOf_addClause h c

/-- What holds of all criteria as clauses, and is kept where one of their equalities is absorbed, holds of all
clauses. -/
theorem forall_mem_foldl_addClause {Q : Clause → Prop} {cs : List Criteria}
    (hequality : ∀ c ∈ cs, ∀ e, c.equality? = some e → Q (.equality e))
    (habsorb : ∀ c ∈ cs, ∀ e e', c.equality? = some e → Q (.equality e') → e'.joins e = true →
      Q (.equality (e'.absorb e)))
    (hother : ∀ c ∈ cs, c.equality? = none → Q (.other c)) : ∀ cl ∈ cs.foldl addClause [], Q cl := by
  have hnil : ∀ cl ∈ ([] : List Clause), Q cl := by simp
  exact List.foldlRecOn (motive := fun clauses => ∀ cl ∈ clauses, Q cl) cs addClause hnil fun clauses hcl c hc =>
    forall_addClause hcl (hequality c hc) (habsorb c hc) (hother c hc)

/-- What holds once one of the criteria is added, and is kept where others are, holds in the end. -/
theorem foldl_addClause_of_mem {Q : List Clause → Prop} {cs : List Criteria} {c : Criteria} (hc : c ∈ cs)
    (hadd : ∀ clauses, Q (addClause clauses c)) (hkeep : ∀ clauses d, Q clauses → Q (addClause clauses d))
    (clauses : List Clause) : Q (cs.foldl addClause clauses) := by
  obtain ⟨before, after, rfl⟩ := List.append_of_mem hc
  rw [List.foldl_append, List.foldl_cons]
  exact List.foldlRecOn (motive := Q) after addClause (hadd _) fun _ h d _ => hkeep _ d h

/-- A clause that is no equality is one of the criteria. -/
theorem mem_of_other_mem_foldl_addClause {cs : List Criteria} {c : Criteria}
    (h : .other c ∈ cs.foldl addClause []) : c ∈ cs ∧ c.equality? = none := by
  refine forall_mem_foldl_addClause (Q := fun cl => ∀ c, cl = .other c → c ∈ cs ∧ c.equality? = none)
    (fun _ _ _ _ _ => nofun) (fun _ _ _ _ _ _ _ _ => nofun) (fun c hc hnone d hd => ?_) _ h c rfl
  cases hd
  exact ⟨hc, hnone⟩

private theorem other_mem_addEquality {clauses : List Clause} {c : Criteria} (h : .other c ∈ clauses) (e : Equality) :
    .other c ∈ addEquality clauses e := by
  induction clauses with
  | nil => cases h
  | cons cl rest ih =>
    cases cl with
    | other d =>
      rcases List.mem_cons.1 h with heq | h
      · rw [heq]
        exact .head _
      · exact .tail _ (ih h)
    | equality e' =>
      have hrest : .other c ∈ rest := (List.mem_cons.1 h).resolve_left nofun
      rw [addEquality]
      split
      · exact .tail _ hrest
      · exact .tail _ (ih hrest)

private theorem other_mem_addClause {clauses : List Clause} {c : Criteria} (h : .other c ∈ clauses) (d : Criteria) :
    .other c ∈ addClause clauses d := by
  unfold addClause
  split
  · exact other_mem_addEquality h _
  · exact List.mem_append_left _ h

/-- Each criterion that is no equality is a clause. -/
theorem other_mem_foldl_addClause {cs : List Criteria} {c : Criteria} (hc : c ∈ cs) (hnone : c.equality? = none)
    (clauses : List Clause) : .other c ∈ cs.foldl addClause clauses := by
  refine foldl_addClause_of_mem (Q := fun clauses => .other c ∈ clauses) hc (fun clauses => ?_)
    (fun _ d h => other_mem_addClause h d) clauses
  rw [addClause, hnone]
  exact List.mem_append_right _ (.head _)

/-- What a clause asks for is asked for by one of the criteria with its key. -/
theorem exists_mem_of_mem_values {cs : List Criteria} {e : Equality} (he : .equality e ∈ cs.foldl addClause [])
    {v : Value} (hv : v ∈ e.values) :
    ∃ c ∈ cs, ∃ a, c.equality? = some a ∧ a.key = e.key ∧ v ∈ a.values := by
  refine forall_mem_foldl_addClause (Q := fun cl => ∀ e, cl = .equality e → ∀ v ∈ e.values,
    ∃ c ∈ cs, ∃ a, c.equality? = some a ∧ a.key = e.key ∧ v ∈ a.values) (fun c hc a ha e heq v hv => ?_)
    (fun c hc a e' ha h hjoins e heq v hv => ?_) (fun _ _ _ _ => nofun) _ he e rfl v hv
  · cases heq
    exact ⟨c, hc, a, ha, rfl, hv⟩
  · cases heq
    rcases mem_foldl_addValue hv with hv | hv
    · exact h e' rfl v hv
    · exact ⟨c, hc, a, ha, (joins_iff_key.1 hjoins).symm, hv⟩

/-- An analysed clause starts with one value, and takes in only values that are not loosely equal to one that it has. -/
theorem pairwise_values_of_analyzed {cs : List Criteria} {e : Equality} (he : .equality e ∈ cs.foldl addClause [])
    (hkind : e.kind = .analyzed) : e.values.Pairwise fun v w => v.looselyEqual w = false := by
  refine forall_mem_foldl_addClause (Q := fun cl => ∀ e, cl = .equality e → e.kind = .analyzed →
    e.values.Pairwise fun v w => v.looselyEqual w = false) (fun c _ a ha e heq hkind => ?_)
    (fun c _ a e' _ h _ e heq hkind => ?_) (fun _ _ _ _ => nofun) _ he e rfl hkind
  · cases heq
    unfold equality? at ha
    split at ha <;> cases ha
    · cases hkind
    · cases hkind
    · exact List.pairwise_singleton _ _
  · cases heq
    exact pairwise_foldl_addValue (h e' rfl hkind) a.values

/-! ### The clauses of a disjunction -/

theorem allDisjuncts_append (cs cs' : List Criteria) :
    allDisjuncts (cs ++ cs') = allDisjuncts cs ++ allDisjuncts cs' := by
  simp only [allDisjuncts_eq, List.flatMap_append]

theorem keptDisjuncts_append (cs cs' : List Criteria) :
    keptDisjuncts (cs ++ cs') = keptDisjuncts cs ++ keptDisjuncts cs' := by
  simp only [keptDisjuncts, allDisjuncts_append, List.filter_append]

theorem or_of_any_isMatchAll {cs : List Criteria} (h : (allDisjuncts cs).any isMatchAll = true) :
    or cs = matchAll := by
  rw [or, if_pos h]

theorem or_eq_disjunctionOf {cs : List Criteria} (h : (allDisjuncts cs).any isMatchAll = false) :
    or cs = disjunctionOf ((clausesOf cs).map Clause.criterion) := by
  rw [or, if_neg (by simp [h])]
  rfl

/-! ### The disjuncts of a disjunction -/

mutual

/-- What a disjunction is taken apart into is not taken apart further. -/
theorem disjuncts_of_mem_disjuncts : ∀ {c d : Criteria}, d ∈ disjuncts c → disjuncts d = [d]
  | disjunction clauses, d, h => by
    rw [disjuncts] at h
    exact disjuncts_of_mem_allDisjuncts h
  | term .., d, h | terms .., d, h | range .., d, h | present _, d, h | missing _, d, h | pattern .., d, h
  | analyzed .., d, h | bool .., d, h | negation _, d, h | matchAll, d, h => by
    rw [List.mem_singleton.1 h]
    rfl

theorem disjuncts_of_mem_allDisjuncts : ∀ {cs : List Criteria} {d : Criteria}, d ∈ allDisjuncts cs →
    disjuncts d = [d]
  | [], d, h => by cases h
  | c :: rest, d, h => by
    rcases List.mem_append.1 h with h | h
    · exact disjuncts_of_mem_disjuncts h
    · exact disjuncts_of_mem_allDisjuncts h

end

private theorem criterion_of_isLeaf {c : Criteria} (h : c.isLeaf = true) :
    disjuncts c = [c] ∧ c.isMatchNone = false ∧ c.isMatchAll = false := by
  cases c <;> first | exact ⟨rfl, rfl, rfl⟩ | cases h

/-- Each clause is a single disjunct and decides nothing by itself. -/
theorem criterion_of_mem_clausesOf {cs : List Criteria} (h : (allDisjuncts cs).any isMatchAll = false) {cl : Clause}
    (hcl : cl ∈ clausesOf cs) :
    disjuncts cl.criterion = [cl.criterion] ∧ cl.criterion.isMatchNone = false ∧ cl.criterion.isMatchAll = false := by
  cases cl with
  | equality e => exact criterion_of_isLeaf (isLeaf_criterion e)
  | other c =>
    obtain ⟨hc, hnone⟩ := List.mem_filter.1 (mem_of_other_mem_foldl_addClause hcl).1
    refine ⟨disjuncts_of_mem_allDisjuncts hc, by simpa [Clause.criterion] using hnone, ?_⟩
    simp only [List.any_eq_false, Bool.not_eq_true] at h
    exact h c hc

private theorem allDisjuncts_of_forall {cs : List Criteria} (h : ∀ c ∈ cs, disjuncts c = [c]) :
    allDisjuncts cs = cs := by
  induction cs with
  | nil => rfl
  | cons c rest ih =>
    simp only [List.forall_mem_cons] at h
    rw [allDisjuncts, h.1, ih h.2, List.singleton_append]

private theorem disjuncts_disjunctionOf {cs : List Criteria} (h : ∀ c ∈ cs, disjuncts c = [c]) :
    disjuncts (disjunctionOf cs) = if cs = [] then [matchNone] else cs := by
  unfold disjunctionOf
  split
  · rfl
  · rw [h _ (by simp), if_neg (by simp)]
  · rename_i hnil _
    rw [disjuncts, allDisjuncts_of_forall h, if_neg hnil]

/-- A disjunction is taken apart into the criteria of its clauses. Where there are none it holds of no document. -/
theorem disjuncts_or {cs : List Criteria} (h : (allDisjuncts cs).any isMatchAll = false) :
    disjuncts (or cs) = if clausesOf cs = [] then [matchNone] else (clausesOf cs).map Clause.criterion := by
  have hclauses : ∀ c ∈ (clausesOf cs).map Clause.criterion, disjuncts c = [c] :=
    List.forall_mem_map.2 fun cl hcl => (criterion_of_mem_clausesOf h hcl).1
  rw [or_eq_disjunctionOf h, disjuncts_disjunctionOf hclauses]
  simp only [List.map_eq_nil_iff]

theorem keptDisjuncts_or {cs : List Criteria} (h : (allDisjuncts cs).any isMatchAll = false) :
    keptDisjuncts [or cs] = (clausesOf cs).map Clause.criterion := by
  rw [keptDisjuncts, allDisjuncts, allDisjuncts, List.append_nil, disjuncts_or h]
  split
  · rename_i hnil
    rw [hnil]
    rfl
  · refine List.filter_eq_self.2 (List.forall_mem_map.2 fun cl hcl => ?_)
    rw [(criterion_of_mem_clausesOf h hcl).2.1]
    rfl

/-! ### Equalities as criteria -/

/-- The leaf for an equality says an equality with these values of the field. -/
theorem exists_equality?_criterion (e : Equality) :
    ∃ kind, e.criterion.equality? = some { e with kind := kind } ∧ (e.kind = .exact → kind = .exact) := by
  obtain ⟨field, kind, values, member⟩ := e
  unfold Equality.criterion
  split
  · rename_i hkind hvalues
    cases hvalues
    exact ⟨.exact, rfl, fun _ => rfl⟩
  · rename_i hkind hvalues
    cases hkind
    cases hvalues
    exact ⟨.analyzed, rfl, nofun⟩
  · exact ⟨.exact, rfl, fun _ => rfl⟩

end DocumentSearch.Criteria
