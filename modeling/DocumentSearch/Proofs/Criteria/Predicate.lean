import DocumentSearch.Criteria.Predicate
import DocumentSearch.Proofs.Criteria.Canonical
import DocumentSearch.Proofs.Expr.Fold

/-!
# The criteria of predicates

What the functions that compile predicates return. Whatever holds of leaves and is kept by the combinators holds of
every compiled predicate (`ofPredicate_induction`); so it is canonical (`canonical_ofPredicate`).
-/

namespace DocumentSearch

open Criteria

/-- What the leaves of compiled predicates carry: a field, a pattern that is not blank and, at most if `hints` holds, a
hint how to look for several terms. -/
def LeafCondition.compiled (hints : Prop) : LeafCondition where
  field name := name ≠ ""
  pattern _ text := Text.isBlank text = false
  mode _ := hints

/-- The leaves of compiled predicates that match analysed content at most if `analysis` holds. -/
def LeafCondition.compiledWith (hints analysis : Prop) : LeafCondition := { compiled hints with analyzed := analysis }

/-- The expression is an equality in a mode that disregards letter case. -/
def Expr.disregardsCase : Expr → Bool
  | call _ m [_, mode] => m.builtin? == some .equalsString && mode.constant?.any Value.ignoresCase
  | _ => false

/-- The search for all of several values. -/
def Method.containsAll : Method := ⟨"contains_all", .search⟩

private theorem eq_containsAll_of_builtin? {m : Method} (h : m.builtin? = some .containsAll) : m = .containsAll := by
  obtain ⟨before, after, hlist, -⟩ := List.lookup_eq_some_iff.1 h
  have hmem : (m, Builtin.containsAll) ∈ builtins := by rw [hlist]; simp
  simpa [builtins, Method.containsAll] using hmem

namespace Criteria

variable {mapping : Mapping} {source : String}

/-! ### Leaves -/

/-- A leaf that satisfies the condition. -/
def IsLeafOf (P : LeafCondition) (c : Criteria) : Prop := c.isLeaf = true ∧ c.Leaves P

theorem fieldOf_eq_ok {e : Expr} {field : String} :
    fieldOf mapping source e = .ok field ↔ mapping.fieldName? source e = some field := by
  unfold fieldOf
  split <;> simp_all

theorem checked_eq_ok {x : Except CriteriaError Criteria} {c : Criteria} : checked x = .ok c ↔ x = .ok c :=
  mapError_eq_ok

/-- A checked leaf is built where the field has a name. -/
private theorem checkField_bind_eq_ok {kind : LeafKind} {field : String} {leaf c : Criteria} :
    (Checked.checkField kind field >>= fun _ => pure leaf) = .ok c ↔ field ≠ "" ∧ c = leaf := by
  unfold Checked.checkField
  split <;> rename_i h <;> rw [String.isEmpty_iff] at h <;> simp [h, bind, Except.bind, pure, Except.pure, eq_comm]

theorem Checked.term_eq_ok {field : String} {v : Value} {member : Option Member} {c : Criteria} :
    Checked.term field v member = .ok c ↔ field ≠ "" ∧ c = .term field v member :=
  checkField_bind_eq_ok

theorem Checked.terms_eq_ok {field : String} {values : List Value} {execution : Option ExecutionMode}
    {member : Option Member} {c : Criteria} :
    Checked.terms field values execution member = .ok c ↔ field ≠ "" ∧ c = .terms field values execution member :=
  checkField_bind_eq_ok

theorem Checked.range_eq_ok {field : String} {comparison : Comparison} {v : Value} {member : Option Member}
    {c : Criteria} :
    Checked.range field comparison v member = .ok c ↔ field ≠ "" ∧ c = .range field comparison v member :=
  checkField_bind_eq_ok

theorem presence_eq_ok {isPresent : Bool} {field : String} {c : Criteria} :
    presence isPresent field = .ok c ↔ field ≠ "" ∧ c = if isPresent then .present field else .missing field := by
  cases isPresent <;> exact checkField_bind_eq_ok

theorem Checked.analyzed_eq_ok {field : String} {v : Value} {member : Option Member} {c : Criteria}
    (h : Checked.analyzed field v member = .ok c) :
    field ≠ "" ∧ ∃ w, (w = .null ↔ v = .null) ∧ c = .analyzed field w member := by
  obtain ⟨hfield, rfl⟩ := checkField_bind_eq_ok.1 h
  refine ⟨hfield, _, ?_, rfl⟩
  cases v <;> simp

theorem Checked.pattern_eq_ok {kind : PatternKind} {field text : String} {c : Criteria} :
    Checked.pattern kind field text = .ok c ↔
      field ≠ "" ∧ Text.isBlank text = false ∧ c = .pattern kind field text := by
  unfold Checked.pattern Checked.checkField
  split <;> rename_i h <;> rw [String.isEmpty_iff] at h
  · simp [h, bind, Except.bind]
  · cases hb : Text.isBlank text <;>
      simp [h, bind, Except.bind, pure, Except.pure, eq_comm, throw, throwThe, MonadExceptOf.throw]

theorem Checked.anyOf_eq_ok {field : String} {values : List Value} {execution : Option ExecutionMode}
    {member : Option Member} {c : Criteria} (h : Checked.anyOf field values execution member = .ok c) :
    field ≠ "" ∧ ((∃ v, values = [v] ∧ c = .term field v member) ∨ c = .terms field values execution member) := by
  unfold Checked.anyOf at h
  split at h
  · obtain ⟨hfield, rfl⟩ := Checked.term_eq_ok.1 h
    exact ⟨hfield, .inl ⟨_, rfl, rfl⟩⟩
  · obtain ⟨hfield, rfl⟩ := Checked.terms_eq_ok.1 h
    exact ⟨hfield, .inr rfl⟩

/-! ### Comparisons -/

/-- Equality with a value becomes a `term` or, for a field of text, a leaf for analysed content. -/
private theorem equalityWith_cases {p : Pairing} {c : Criteria} (h : equalityWith mapping source p = .ok c) :
    ∃ field, mapping.fieldName? source p.subject = some field ∧ field ≠ "" ∧
      ((mapping.fieldType? field ≠ some "text" ∧ c = term field p.constant p.member?) ∨
        (mapping.fieldType? field = some "text" ∧
          ∃ w, (w = .null ↔ p.constant = .null) ∧ c = analyzed field w p.member?)) := by
  unfold equalityWith at h
  obtain ⟨field, hfield, h⟩ := bind_eq_ok.1 h
  rw [fieldOf_eq_ok] at hfield
  split at h <;> rw [checked_eq_ok] at h
  · obtain ⟨hne, w, hw, rfl⟩ := Checked.analyzed_eq_ok h
    exact ⟨field, hfield, hne, .inr ⟨‹_›, w, hw, rfl⟩⟩
  · obtain ⟨hne, rfl⟩ := Checked.term_eq_ok.1 h
    exact ⟨field, hfield, hne, .inl ⟨‹_›, rfl⟩⟩

/-- An equality asks whether an optional value is there, whether a field lacks content, or for a value. -/
theorem equalityOf_cases {p : Pairing} {c : Criteria} (h : equalityOf mapping source p = .ok c) :
    (∃ b target m field, p.constant = .bool b ∧ p.subject.member? = some (some target, m) ∧ m.isHasValue = true ∧
      mapping.fieldName? source target = some field ∧ field ≠ "" ∧ c = if b then present field else missing field) ∨
    (∃ field, mapping.fieldName? source p.subject = some field ∧ field ≠ "" ∧
      ((∃ m, p.subject.member? = some (none, m) ∧ m.isHasValue = true ∧ c = missing field) ∨
        (p.constant = .null ∧ c = missing field) ∨
        (p.constant ≠ .null ∧ mapping.fieldType? field ≠ some "text" ∧ c = term field p.constant p.member?) ∨
        (mapping.fieldType? field = some "text" ∧ ∃ w, w ≠ .null ∧ c = analyzed field w p.member?))) := by
  unfold equalityOf at h
  split at h
  · rename_i b target? m hb hm
    split at h
    · rename_i hvalue
      cases target? with
      | some target =>
        obtain ⟨field, hfield, h⟩ := bind_eq_ok.1 h
        rw [checked_eq_ok, presence_eq_ok] at h
        exact .inl ⟨b, target, m, field, hb, hm, hvalue, fieldOf_eq_ok.1 hfield, h.1, h.2⟩
      | none =>
        obtain ⟨field, hfield, h⟩ := bind_eq_ok.1 h
        rw [checked_eq_ok, presence_eq_ok] at h
        exact .inr ⟨field, fieldOf_eq_ok.1 hfield, h.1, .inl ⟨m, hm, hvalue, h.2⟩⟩
    · have hnull : p.constant ≠ .null := by simp [hb]
      obtain ⟨field, hfield, hne, hc | ⟨htext, w, hw, hc⟩⟩ := equalityWith_cases h
      · exact .inr ⟨field, hfield, hne, .inr (.inr (.inl ⟨hnull, hc⟩))⟩
      · exact .inr ⟨field, hfield, hne, .inr (.inr (.inr ⟨htext, w, mt hw.1 hnull, hc⟩))⟩
  · rename_i hnull _
    split at h
    · obtain ⟨field, hfield, h⟩ := bind_eq_ok.1 h
      rw [checked_eq_ok, presence_eq_ok] at h
      exact .inr ⟨field, fieldOf_eq_ok.1 hfield, h.1, .inr (.inl ⟨hnull, h.2⟩)⟩
    · exact absurd h throw_ne_ok
  · exact absurd h throw_ne_ok
  · rename_i hmember hnoMember
    -- null came before, with a member and without one
    have hnull : p.constant ≠ .null := fun hn => by
      cases hm : p.subject.member? with
      | none => exact hnoMember hn hm
      | some m => exact hmember _ _ hn hm
    obtain ⟨field, hfield, hne, hc | ⟨htext, w, hw, hc⟩⟩ := equalityWith_cases h
    · exact .inr ⟨field, hfield, hne, .inr (.inr (.inl ⟨hnull, hc⟩))⟩
    · exact .inr ⟨field, hfield, hne, .inr (.inr (.inr ⟨htext, w, mt hw.1 hnull, hc⟩))⟩

theorem ofEquality_eq_ok {a b : Expr} {c : Criteria} :
    ofEquality mapping source a b = .ok c ↔ ∃ p, Pairing.of? a b = some p ∧ equalityOf mapping source p = .ok c := by
  unfold ofEquality
  split <;> simp_all

/-- An order comparison becomes a `range`, from the side of the field. -/
theorem ofComparison_cases {comparison : Comparison} {a b : Expr} {c : Criteria}
    (h : ofComparison mapping source comparison a b = .ok c) :
    ∃ p field, Pairing.of? a b = some p ∧ p.constant ≠ .null ∧ mapping.fieldName? source p.subject = some field ∧
      field ≠ "" ∧
      c = range field (if p.constantFirst then comparison.flip else comparison) p.constant p.member? := by
  unfold ofComparison at h
  split at h
  · exact absurd h throw_ne_ok
  · rename_i p hp
    cases hnull : p.constant.isNull with
    | true => simp [hnull, throw, throwThe, MonadExceptOf.throw, bind, Except.bind] at h
    | false =>
      simp only [hnull, Bool.false_eq_true, ↓reduceIte] at h
      obtain ⟨field, hfield, h⟩ := bind_eq_ok.1 h
      rw [checked_eq_ok, Checked.range_eq_ok] at h
      exact ⟨p, field, hp, fun hn => by simp [hn, Value.isNull] at hnull, fieldOf_eq_ok.1 hfield, h⟩

/-! ### Methods -/

/-- Some or all of several values become `terms` or, of a single value, a `term`. -/
theorem ofValues_cases {e values : Expr} {execution : Option ExecutionMode} {c : Criteria}
    (h : ofValues mapping source e values execution = .ok c) :
    ∃ vs field, valueList values = .ok vs ∧ mapping.fieldName? source e = some field ∧ field ≠ "" ∧
      ((∃ v, vs = [v] ∧ c = term field v (e.member?.map Prod.snd)) ∨
        c = terms field vs execution (e.member?.map Prod.snd)) := by
  unfold ofValues at h
  obtain ⟨vs, hvs, h⟩ := bind_eq_ok.1 h
  obtain ⟨field, hfield, h⟩ := bind_eq_ok.1 h
  rw [checked_eq_ok] at h
  obtain ⟨hne, hc⟩ := Checked.anyOf_eq_ok h
  exact ⟨vs, field, hvs, fieldOf_eq_ok.1 hfield, hne, hc⟩

theorem patternText_eq_ok {e : Expr} {s : String} : patternText e = .ok s ↔ e.constant? = some (.string s) := by
  unfold patternText
  split <;> simp_all

/-- A pattern is given as it is. -/
theorem ofPattern_cases {kind : PatternKind} {e text : Expr} {c : Criteria}
    (h : ofPattern mapping source kind e text = .ok c) :
    ∃ field s, mapping.fieldName? source e = some field ∧ text.constant? = some (.string s) ∧ field ≠ "" ∧
      Text.isBlank s = false ∧ c = .pattern kind field s := by
  obtain ⟨field, hfield, h⟩ := bind_eq_ok.1 h
  obtain ⟨s, hs, h⟩ := bind_eq_ok.1 h
  exact ⟨field, s, fieldOf_eq_ok.1 hfield, patternText_eq_ok.1 hs, Checked.pattern_eq_ok.1 (checked_eq_ok.1 h)⟩

/-- A pattern is made from a text. -/
theorem ofQuoted_cases {kind : PatternKind} {write : String → String} {e text : Expr} {c : Criteria}
    (h : ofQuoted mapping source kind write e text = .ok c) :
    ∃ field s, mapping.fieldName? source e = some field ∧ text.constant? = some (.string s) ∧ field ≠ "" ∧
      Text.isBlank (write s) = false ∧ c = .pattern kind field (write s) := by
  obtain ⟨s, hs, h⟩ := bind_eq_ok.1 h
  obtain ⟨field, hfield, h⟩ := bind_eq_ok.1 h
  exact ⟨field, s, fieldOf_eq_ok.1 hfield, patternText_eq_ok.1 hs, Checked.pattern_eq_ok.1 (checked_eq_ok.1 h)⟩

/-- Either the items are constant, or the one that is looked for. -/
theorem ofHasItem_cases {items item : Expr} {c : Criteria} (h : ofHasItem mapping source items item = .ok c) :
    (item.constant? = none ∧ ofValues mapping source item items none = .ok c) ∨
      ∃ v field, items.constant? = none ∧ item.constant? = some v ∧ field ≠ "" ∧
        c = term field v (items.member?.map Prod.snd) := by
  unfold ofHasItem at h
  split at h
  · exact .inl ⟨‹_›, h⟩
  · obtain ⟨field, -, h⟩ := bind_eq_ok.1 h
    exact .inr ⟨_, field, ‹_›, ‹_›, Checked.term_eq_ok.1 (checked_eq_ok.1 h)⟩
  · exact absurd h throw_ne_ok

/-- Equality in a mode is one of analysed content if the mode disregards letter case, and a plain one if not. -/
theorem ofEqualityInMode_cases {a b mode : Expr} {c : Criteria}
    (h : ofEqualityInMode mapping source a b mode = .ok c) :
    (mode.constant?.any Value.ignoresCase = true ∧ ∃ p field w, Pairing.of? a b = some p ∧ field ≠ "" ∧
        (w = .null ↔ p.constant = .null) ∧ c = analyzed field w p.member?) ∨
      (mode.constant?.any Value.ignoresCase = false ∧ ofEquality mapping source a b = .ok c) := by
  unfold ofEqualityInMode at h
  split at h
  · split at h
    · exact absurd h throw_ne_ok
    · rename_i p hp
      obtain ⟨field, -, h⟩ := bind_eq_ok.1 h
      obtain ⟨hne, w, hw, rfl⟩ := Checked.analyzed_eq_ok (checked_eq_ok.1 h)
      exact .inl ⟨‹_›, p, field, w, hp, hne, hw, rfl⟩
  · rename_i hmode
    exact .inr ⟨Bool.eq_false_iff.2 hmode, h⟩

theorem ofHasItem_of_constant {v : Value} {item : Expr} (h : item.constant? = none) :
    ofHasItem mapping source (.constant v) item = ofValues mapping source item (.constant v) none := by
  unfold ofHasItem
  rw [h]
  rfl

theorem ofCall_equals_eq_ok {owner : MethodOwner} {a b : Expr} {c : Criteria}
    (h : ofCall mapping source ⟨"equals", owner⟩ (some a) [b] = .ok c) : ofEquality mapping source a b = .ok c := by
  cases owner <;> first | exact h | cases h

theorem ofCall_staticEquals_eq_ok {owner : MethodOwner} {a b : Expr} {c : Criteria}
    (h : ofCall mapping source ⟨"equals", owner⟩ none [a, b] = .ok c) : ofEquality mapping source a b = .ok c := by
  cases owner <;> first | exact h | cases h

variable {hints analysis : Prop}

private theorem isLeafOf_ofEquality (htext : ∀ field, mapping.fieldType? field = some "text" → analysis) {a b : Expr}
    {c : Criteria} (h : ofEquality mapping source a b = .ok c) : c.IsLeafOf (.compiledWith hints analysis) := by
  obtain ⟨p, -, h⟩ := ofEquality_eq_ok.1 h
  rcases equalityOf_cases h with ⟨b, _, _, _, _, _, _, _, hne, rfl⟩ |
    ⟨_, _, hne, ⟨_, _, _, rfl⟩ | ⟨_, rfl⟩ | ⟨_, _, rfl⟩ | ⟨htype, _, _, rfl⟩⟩
  · cases b <;> exact ⟨rfl, hne⟩
  · exact ⟨rfl, hne⟩
  · exact ⟨rfl, hne⟩
  · exact ⟨rfl, hne, trivial⟩
  · exact ⟨rfl, hne, trivial, htext _ htype⟩

private theorem isLeafOf_ofComparison {comparison : Comparison} {a b : Expr} {c : Criteria}
    (h : ofComparison mapping source comparison a b = .ok c) : c.IsLeafOf (.compiledWith hints analysis) := by
  obtain ⟨_, _, _, _, _, hne, rfl⟩ := ofComparison_cases h
  exact ⟨rfl, hne, trivial⟩

private theorem isLeafOf_ofPattern {kind : PatternKind} {e text : Expr} {c : Criteria}
    (h : ofPattern mapping source kind e text = .ok c) : c.IsLeafOf (.compiledWith hints analysis) := by
  obtain ⟨_, _, _, _, hne, hblank, rfl⟩ := ofPattern_cases h
  exact ⟨rfl, hne, hblank⟩

private theorem isLeafOf_ofQuoted {kind : PatternKind} {write : String → String} {e text : Expr} {c : Criteria}
    (h : ofQuoted mapping source kind write e text = .ok c) : c.IsLeafOf (.compiledWith hints analysis) := by
  obtain ⟨_, _, _, _, hne, hblank, rfl⟩ := ofQuoted_cases h
  exact ⟨rfl, hne, hblank⟩

private theorem isLeafOf_ofValues {e values : Expr} {execution : Option ExecutionMode} {c : Criteria}
    (hhints : ∀ mode ∈ execution, hints) (h : ofValues mapping source e values execution = .ok c) :
    c.IsLeafOf (.compiledWith hints analysis) := by
  obtain ⟨_, _, _, _, hne, ⟨_, _, rfl⟩ | rfl⟩ := ofValues_cases h
  · exact ⟨rfl, hne, trivial⟩
  · exact ⟨rfl, hne, fun _ _ => trivial, hhints⟩

private theorem isLeafOf_ofHasItem {items item : Expr} {c : Criteria}
    (h : ofHasItem mapping source items item = .ok c) : c.IsLeafOf (.compiledWith hints analysis) := by
  rcases ofHasItem_cases h with ⟨_, h⟩ | ⟨_, _, _, _, hne, rfl⟩
  · exact isLeafOf_ofValues (by simp) h
  · exact ⟨rfl, hne, trivial⟩

private theorem isLeafOf_ofEqualityInMode (htext : ∀ field, mapping.fieldType? field = some "text" → analysis)
    {a b mode : Expr} {c : Criteria} (hmode : mode.constant?.any Value.ignoresCase = true → analysis)
    (h : ofEqualityInMode mapping source a b mode = .ok c) : c.IsLeafOf (.compiledWith hints analysis) := by
  rcases ofEqualityInMode_cases h with ⟨hignore, _, _, _, _, hne, _, rfl⟩ | ⟨_, h⟩
  · exact ⟨rfl, hne, trivial, hmode hignore⟩
  · exact isLeafOf_ofEquality htext h

private theorem isLeafOf_ofCall (htext : ∀ field, mapping.fieldType? field = some "text" → analysis) {m : Method}
    {target? : Option Expr} {args : List Expr} {c : Criteria} (hhints : m = .containsAll → hints)
    (hmode : ∀ target, target? = some target → (Expr.call target m args).disregardsCase = true → analysis)
    (h : ofCall mapping source m target? args = .ok c) : c.IsLeafOf (.compiledWith hints analysis) := by
  unfold ofCall at h
  split at h
  · exact isLeafOf_ofEquality htext h
  · exact isLeafOf_ofEquality htext h
  · exact isLeafOf_ofEquality htext h
  · rename_i hm
    exact isLeafOf_ofEqualityInMode htext (fun hignore => hmode _ rfl (by simp [Expr.disregardsCase, hm, hignore])) h
  · exact isLeafOf_ofPattern h
  · exact isLeafOf_ofQuoted h
  · exact isLeafOf_ofQuoted h
  · exact isLeafOf_ofHasItem h
  · exact isLeafOf_ofHasItem h
  · exact isLeafOf_ofPattern h
  · exact isLeafOf_ofPattern h
  · exact isLeafOf_ofPattern h
  · exact isLeafOf_ofValues (by simp) h
  · rename_i hm
    exact isLeafOf_ofValues (fun _ _ => hhints (eq_containsAll_of_builtin? hm)) h
  · cases h

theorem ofMember_cases {whole : Expr} {m : Member} {c : Criteria} (h : ofMember mapping source whole m = .ok c) :
    ∃ field, m.isTruth = true ∧ mapping.fieldName? source whole = some field ∧ field ≠ "" ∧
      c = term field (.bool true) (some m) := by
  unfold ofMember at h
  split at h
  · obtain ⟨field, hfield, h⟩ := bind_eq_ok.1 h
    exact ⟨field, ‹_›, fieldOf_eq_ok.1 hfield, Checked.term_eq_ok.1 (checked_eq_ok.1 h)⟩
  · exact absurd h throw_ne_ok

private theorem isLeafOf_ofMember {whole : Expr} {m : Member} {c : Criteria}
    (h : ofMember mapping source whole m = .ok c) : c.IsLeafOf (.compiledWith hints analysis) := by
  obtain ⟨_, _, _, hne, rfl⟩ := ofMember_cases h
  exact ⟨rfl, hne, trivial⟩

/-! ### Tests -/

/-- The tests that a predicate is made of and the leaves that they become. The leaf of an inequality is that of the
equality. -/
inductive LeafFor (mapping : Mapping) (source : String) : Expr → Criteria → Prop
  | equal {a b : Expr} {c : Criteria} : ofEquality mapping source a b = .ok c →
      LeafFor mapping source (.binary a .equal b) c
  | notEqual {a b : Expr} {c : Criteria} : ofEquality mapping source a b = .ok c →
      LeafFor mapping source (.binary a .notEqual b) c
  | compare {comparison : Comparison} {a b : Expr} {c : Criteria} : ofComparison mapping source comparison a b = .ok c →
      LeafFor mapping source (.binary a (.compare comparison) b) c
  | call {target : Expr} {m : Method} {args : List Expr} {c : Criteria} :
      ofCall mapping source m (some target) args = .ok c → LeafFor mapping source (.call target m args) c
  | staticCall {m : Method} {args : List Expr} {c : Criteria} : ofCall mapping source m none args = .ok c →
      LeafFor mapping source (.staticCall m args) c
  | hasValue {target : Expr} {m : Member} {field : String} {c : Criteria} : m.isHasValue = true →
      fieldOf mapping source target = .ok field → presence true field = .ok c →
      LeafFor mapping source (.member target m) c
  | member {whole target : Expr} {m : Member} {c : Criteria} : ofMember mapping source whole m = .ok c →
      LeafFor mapping source (.member target m) c
  | staticMember {whole : Expr} {m : Member} {c : Criteria} : ofMember mapping source whole m = .ok c →
      LeafFor mapping source (.staticMember m) c

/-- A leaf has a hint only where all of several values are searched for, and matches analysed content only where a field
is a text or a mode disregards letter case. -/
theorem isLeafOf_of_leafFor {s : Expr} {c : Criteria} (h : LeafFor mapping source s c)
    (hhints : s.method? = some .containsAll → hints)
    (htext : ∀ field, mapping.fieldType? field = some "text" → analysis) (hmode : s.disregardsCase = true → analysis) :
    c.IsLeafOf (.compiledWith hints analysis) := by
  cases h with
  | equal h => exact isLeafOf_ofEquality htext h
  | notEqual h => exact isLeafOf_ofEquality htext h
  | compare h => exact isLeafOf_ofComparison h
  | call h =>
    exact isLeafOf_ofCall htext (fun hm => hhints (congrArg some hm)) (fun _ htarget => by cases htarget; exact hmode) h
  | staticCall h =>
    exact isLeafOf_ofCall htext (fun hm => hhints (congrArg some hm)) (fun _ htarget => by cases htarget) h
  | hasValue _ _ h =>
    obtain ⟨hne, rfl⟩ := presence_eq_ok.1 h
    exact ⟨rfl, hne⟩
  | member h => exact isLeafOf_ofMember h
  | staticMember h => exact isLeafOf_ofMember h

/-- A test becomes a leaf. -/
theorem isLeaf_of_leafFor {s : Expr} {c : Criteria} (h : LeafFor mapping source s c) : c.isLeaf = true := by
  have hleaf : c.IsLeafOf (.compiledWith True True) :=
    isLeafOf_of_leafFor h (fun _ => trivial) (fun _ _ => trivial) fun _ => trivial
  exact hleaf.1

/-! ### Predicates -/

/-- Criteria without leaves satisfy `Q`, and the combinators keep it. -/
structure Kept (Q : Criteria → Prop) : Prop where
  matchAll : Q matchAll
  matchNone : Q matchNone
  not {c : Criteria} : Q c → Q (not c)
  and {cs : List Criteria} : (∀ c ∈ cs, Q c) → Q (and cs)
  or {cs : List Criteria} : (∀ c ∈ cs, Q c) → Q (or cs)

theorem kept_canonical : Kept Canonical :=
  ⟨.matchAll, canonical_matchNone, canonical_not, canonical_and, canonical_or⟩

theorem kept_leaves (P : LeafCondition) : Kept (Leaves P) :=
  ⟨leaves_matchAll, leaves_matchNone, leaves_not, leaves_and, leaves_or⟩

theorem Kept.joined {Q : Criteria → Prop} (hQ : Kept Q) {cs : List Criteria} (h : ∀ c ∈ cs, Q c) :
    Q (joined cs) := by
  unfold Criteria.joined
  split
  · exact h _ (by simp)
  · exact hQ.or h

/-- The criterion of a predicate of one clause. -/
theorem bind_singleton_eq_ok {α : Type} {x : Except CompileError α} {f : α → Criteria} {cs : List Criteria} :
    (x >>= fun a => pure [f a]) = .ok cs ↔ ∃ a, x = .ok a ∧ cs = [f a] := by
  cases x <;> simp [bind, Except.bind, pure, Except.pure, eq_comm]

private theorem forall_alternatives {Q : Criteria → Prop} (hQ : Kept Q) {whole e : Expr} {cs : List Criteria}
    (hleaf : ∀ s ∈ e.nodes, ∀ c, LeafFor mapping source s c → Q c)
    (h : alternatives mapping source whole e = .ok cs) : ∀ c ∈ cs, Q c := by
  -- the cases are those of `alternatives`: conversion, constant, the operators, calls, members and anything else
  fun_induction alternatives mapping source whole e generalizing cs with
  | case1 whole e type ih => exact ih (fun s hs => hleaf s (by simp [Expr.nodes, hs])) h
  | case2 whole b =>
    cases h
    cases b <;> simp [hQ.matchAll, hQ.matchNone]
  | case3 whole a b iha ihb =>
    obtain ⟨left, hleft, h⟩ := bind_eq_ok.1 h
    obtain ⟨right, hright, rfl⟩ := bind_singleton_eq_ok.1 h
    have hl := hQ.joined (iha (fun s hs => hleaf s (by simp [Expr.nodes, hs])) hleft)
    have hr := hQ.joined (ihb (fun s hs => hleaf s (by simp [Expr.nodes, hs])) hright)
    have hboth : ∀ c ∈ [joined left, joined right], Q c := by simp [hl, hr]
    simpa using hQ.and hboth
  | case4 whole a b iha ihb =>
    obtain ⟨left, hleft, h⟩ := bind_eq_ok.1 h
    obtain ⟨right, hright, h⟩ := bind_eq_ok.1 h
    cases h
    exact List.forall_mem_append.2 ⟨iha (fun s hs => hleaf s (by simp [Expr.nodes, hs])) hleft,
      ihb (fun s hs => hleaf s (by simp [Expr.nodes, hs])) hright⟩
  | case5 whole a b =>
    obtain ⟨c, hc, rfl⟩ := bind_singleton_eq_ok.1 h
    simpa using hleaf _ (Expr.mem_nodes_self _) c (.equal hc)
  | case6 whole a b =>
    obtain ⟨c, hc, rfl⟩ := bind_singleton_eq_ok.1 h
    simpa using hQ.not (hleaf _ (Expr.mem_nodes_self _) c (.notEqual hc))
  | case7 whole a comparison b =>
    obtain ⟨c, hc, rfl⟩ := bind_singleton_eq_ok.1 h
    simpa using hleaf _ (Expr.mem_nodes_self _) c (.compare hc)
  | case8 whole e ih =>
    obtain ⟨clauses, hclauses, rfl⟩ := bind_singleton_eq_ok.1 h
    simpa using hQ.not (hQ.joined (ih (fun s hs => hleaf s (by simp [Expr.nodes, hs])) hclauses))
  | case9 whole target m args =>
    obtain ⟨c, hc, rfl⟩ := bind_singleton_eq_ok.1 h
    simpa using hleaf _ (Expr.mem_nodes_self _) c (.call hc)
  | case10 whole m args =>
    obtain ⟨c, hc, rfl⟩ := bind_singleton_eq_ok.1 h
    simpa using hleaf _ (Expr.mem_nodes_self _) c (.staticCall hc)
  | case11 whole target m hvalue =>
    obtain ⟨field, hfield, h⟩ := bind_eq_ok.1 h
    obtain ⟨c, hc, rfl⟩ := bind_singleton_eq_ok.1 h
    simpa using hleaf _ (Expr.mem_nodes_self _) c (.hasValue hvalue hfield (checked_eq_ok.1 hc))
  | case12 whole target m hvalue =>
    obtain ⟨c, hc, rfl⟩ := bind_singleton_eq_ok.1 h
    simpa using hleaf _ (Expr.mem_nodes_self _) c (.member hc)
  | case13 whole m =>
    obtain ⟨c, hc, rfl⟩ := bind_singleton_eq_ok.1 h
    simpa using hleaf _ (Expr.mem_nodes_self _) c (.staticMember hc)
  | case14 => exact absurd h throw_ne_ok

/-- What holds of the leaves that the tests in a predicate become, and is kept by the combinators, holds of the
criterion of the predicate. -/
theorem ofPredicate_induction {Q : Criteria → Prop} (hQ : Kept Q) {p : Expr} {c : Criteria}
    (hleaf : ∀ s ∈ p.nodes, ∀ d, LeafFor mapping source s d → Q d) (h : ofPredicate mapping source p = .ok c) :
    Q c := by
  obtain ⟨cs, hcs, h⟩ := bind_eq_ok.1 h
  cases h
  exact hQ.joined (forall_alternatives hQ (fun s hs => hleaf s (p.nodes_body_subset hs)) hcs)

theorem canonical_ofPredicate {p : Expr} {c : Criteria} (h : ofPredicate mapping source p = .ok c) : c.Canonical := by
  exact ofPredicate_induction kept_canonical (fun s _ d hd => .leaf (isLeaf_of_leafFor hd)) h

theorem leaves_ofPredicate {p : Expr} {c : Criteria} (hp : .containsAll ∈ p.methods → hints)
    (h : ofPredicate mapping source p = .ok c) : c.Leaves (.compiled hints) :=
  ofPredicate_induction (kept_leaves (.compiledWith hints True))
    (fun s hs _ hd => (isLeafOf_of_leafFor hd (fun hm => hp (List.mem_filterMap.2 ⟨s, hs, hm⟩)) (fun _ _ => trivial)
      fun _ => trivial).2) h

end Criteria

end DocumentSearch
