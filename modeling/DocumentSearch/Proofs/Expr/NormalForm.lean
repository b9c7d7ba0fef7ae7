import DocumentSearch.Proofs.Expr.Fold
import DocumentSearch.Proofs.Expr.Parts

/-!
# The normal form that folding ends in

A folded expression has no local parts but constants, and folding it again leaves it as it is; what is not local stays
at its position (`normalForm_of_fold`).

All of it follows from what a single step does (`folded_cases`): a local expression becomes a constant, and any other
one keeps its form over its folded parts. A constant is local as well, and so folding makes no expression local that
was not (`isLocal_of_folded`).
-/

namespace DocumentSearch.Expr

/-! ### Local expressions and their parts -/

/-- An expression is local if neither its own form nor one of its parts keeps it from being so. -/
theorem isLocal_iff_children {e : Expr} :
    e.isLocal = true ↔ e.isExcluded = false ∧ ∀ child ∈ e.children, child.isLocal = true := by
  constructor
  · intro h
    rw [isLocal_iff] at h
    refine ⟨h e (mem_nodes_self e), fun child hchild => isLocal_iff.2 ?_⟩
    intro s hs
    exact h s (nodes_subset_of_mem_children hchild hs)
  · rintro ⟨hself, hchildren⟩
    rw [isLocal_iff]
    intro s hs
    rcases mem_nodes_iff.1 hs with rfl | ⟨child, hchild, hs⟩
    · exact hself
    · exact isLocal_iff.1 (hchildren child hchild) s hs

theorem isLocal_of_mem_nodes {e s : Expr} (h : e.isLocal = true) (hs : s ∈ e.nodes) : s.isLocal = true := by
  induction e using induction_on_children with
  | step e ih =>
    rcases mem_nodes_iff.1 hs with rfl | ⟨child, hchild, hs⟩
    · exact h
    · exact ih child hchild ((isLocal_iff_children.1 h).2 child hchild) hs

/-! ### Folding keeps what is not local -/

theorem isExcluded_form (e : Expr) : e.form.isExcluded = e.isExcluded := by
  cases e <;> rfl

/-- Folding makes no expression local that was not. -/
theorem isLocal_of_folded {e e' : Expr} (h : Folded e e') : e'.isLocal = e.isLocal := by
  induction e using induction_on_children generalizing e' with
  | step e ih =>
    rcases folded_cases h with ⟨hlocal, v, rfl⟩ | ⟨_, hform, hchildren⟩
    · rw [hlocal]
      rfl
    · have hexcluded : e'.isExcluded = e.isExcluded := by
        rw [← isExcluded_form, hform, isExcluded_form]
      have hparts : (∀ child ∈ e'.children, child.isLocal = true) ↔ ∀ child ∈ e.children, child.isLocal = true := by
        obtain ⟨hfrom, hto⟩ := mem_of_forall₂ hchildren
        constructor
        · intro hall child hchild
          obtain ⟨child', hchild', hfolded⟩ := hto child hchild
          rw [← ih child hchild hfolded]
          exact hall child' hchild'
        · intro hall child' hchild'
          obtain ⟨child, hchild, hfolded⟩ := hfrom child' hchild'
          rw [ih child hchild hfolded]
          exact hall child hchild
      rw [Bool.eq_iff_iff, isLocal_iff_children, isLocal_iff_children, hexcluded, hparts]

/-! ### Folded expressions -/

/-- What is local in a folded expression has been computed. -/
theorem eq_constant_of_isLocal {e e' s : Expr} (h : Folded e e') (hs : s ∈ e'.nodes) (hlocal : s.isLocal = true) :
    ∃ v, s = constant v := by
  induction e using induction_on_children generalizing e' with
  | step e ih =>
    rcases folded_cases h with ⟨_, v, rfl⟩ | ⟨hkept, _, hchildren⟩
    · rcases List.mem_singleton.1 hs with rfl
      exact ⟨v, rfl⟩
    · rcases mem_nodes_iff.1 hs with rfl | ⟨child', hchild', hs⟩
      · -- a kept expression is not local, and so it is not after its parts are folded
        rw [isLocal_of_folded h, hkept] at hlocal
        cases hlocal
      · obtain ⟨child, hchild, hfolded⟩ := (mem_of_forall₂ hchildren).1 child' hchild'
        exact ih child hchild hfolded hs

/-- What is not local stays at its position. -/
theorem folded_at? {e e' s : Expr} (h : Folded e e') {position : List Nat} (hs : e.at? position = some s)
    (hlocal : s.isLocal = false) : ∃ s', e'.at? position = some s' ∧ Folded s s' := by
  induction position generalizing e e' with
  | nil =>
    obtain rfl : e = s := Option.some.inj hs
    exact ⟨e', rfl, h⟩
  | cons i position ih =>
    rcases folded_cases h with ⟨hcomputed, _⟩ | ⟨_, _, hchildren⟩
    · have hmem : s ∈ e.nodes := mem_nodes_iff_exists_at?.2 ⟨_, hs⟩
      rw [isLocal_of_mem_nodes hcomputed hmem] at hlocal
      cases hlocal
    · obtain ⟨child, hchild, hs⟩ := at?_cons_eq_some.1 hs
      obtain ⟨child', hchild', hfolded⟩ : ∃ child', e'.children[i]? = some child' ∧ Folded child child' := by
        obtain ⟨hi, rfl⟩ := List.getElem?_eq_some_iff.1 hchild
        have hi' : i < e'.children.length := by
          rw [← hchildren.length_eq]
          exact hi
        exact ⟨_, List.getElem?_eq_getElem hi', hchildren.get hi hi'⟩
      obtain ⟨s', hs', hsame⟩ := ih hfolded hs
      exact ⟨s', at?_cons_eq_some.2 ⟨child', hchild', hs'⟩, hsame⟩

/-! ### Folding again -/

private theorem foldAll_eq_self {es : List Expr} (h : ∀ e ∈ es, fold e = .ok e) : foldAll es = .ok es := by
  induction es with
  | nil => rfl
  | cons e rest ih =>
    rw [List.forall_mem_cons] at h
    rw [foldAll, h.1, ih h.2]
    rfl

private theorem foldMembers_eq_self {es : List (String × Expr)} (h : ∀ e ∈ es.map Prod.snd, fold e = .ok e) :
    foldMembers es = .ok es := by
  induction es with
  | nil => rfl
  | cons m rest ih =>
    rw [List.map_cons, List.forall_mem_cons] at h
    rw [foldMembers, h.1, ih h.2]
    rfl

/-- Where the parts of an expression stay as they are, so does the expression if it is not local. -/
theorem fold_eq_self_of_children {e : Expr} (hlocal : e.isLocal = false)
    (h : ∀ child ∈ e.children, fold child = .ok child) : fold e = .ok e := by
  rw [fold.eq_def, if_neg (Bool.not_eq_true _ ▸ hlocal)]
  cases e with
  | parameter | constant | staticMember | lookup => rfl
  | member | lambda | unary | convert =>
    have hpart := h _ (.head _)
    exact bind_eq_ok.2 ⟨_, hpart, rfl⟩
  | binary left operator right =>
    have hleft := h left (.head _)
    have hright := h right (.tail _ (.head _))
    exact bind_eq_ok.2 ⟨_, hleft, bind_eq_ok.2 ⟨_, hright, rfl⟩⟩
  | call target m args =>
    have htarget := h target (.head _)
    have hargs := foldAll_eq_self fun arg harg => h arg (.tail _ harg)
    exact bind_eq_ok.2 ⟨_, htarget, bind_eq_ok.2 ⟨_, hargs, rfl⟩⟩
  | staticCall m args =>
    have hargs := foldAll_eq_self h
    exact bind_eq_ok.2 ⟨_, hargs, rfl⟩
  | record typeName members =>
    have hmembers := foldMembers_eq_self h
    exact bind_eq_ok.2 ⟨_, hmembers, rfl⟩

/-- An expression without local parts but constants is in normal form. -/
theorem fold_eq_self {e : Expr} (h : ∀ s ∈ e.nodes, s.isLocal = true → ∃ v, s = constant v) : fold e = .ok e := by
  induction e using induction_on_children with
  | step e ih =>
    cases hlocal : e.isLocal with
    | true =>
      obtain ⟨v, rfl⟩ := h e (mem_nodes_self e) hlocal
      rw [fold_of_isLocal rfl]
      rfl
    | false =>
      refine fold_eq_self_of_children hlocal fun child hchild => ih child hchild ?_
      intro s hs
      exact h s (nodes_subset_of_mem_children hchild hs)

/-- Folding ends in a normal form. Nothing that could be computed is left but constants. What could not be computed is
found at the position at which it was, with the same form over its folded parts. Folding again changes nothing. -/
theorem normalForm_of_fold {e e' : Expr} (h : fold e = .ok e') :
    (∀ s ∈ e'.nodes, (∀ n ∈ s.nodes, n.isExcluded = false) → ∃ v, s = constant v) ∧
    (∀ position s, e.at? position = some s → (∃ n ∈ s.nodes, n.isExcluded = true) →
      ∃ s', e'.at? position = some s' ∧ s'.form = s.form) ∧
    fold e' = .ok e' := by
  have hfolded := folded_of_fold h
  refine ⟨fun s hs hlocal => ?_, fun position s hs hexcluded => ?_, fold_eq_self fun s hs => ?_⟩
  · exact eq_constant_of_isLocal hfolded hs (isLocal_iff.2 hlocal)
  · have hlocal : s.isLocal = false := by
      rw [← Bool.not_eq_true, isLocal_iff]
      intro hnone
      obtain ⟨n, hn, hn'⟩ := hexcluded
      rw [hnone n hn] at hn'
      cases hn'
    obtain ⟨s', hs', hsame⟩ := folded_at? hfolded hs hlocal
    rcases folded_cases hsame with ⟨hcomputed, _⟩ | ⟨_, hform, _⟩
    · rw [hlocal] at hcomputed
      cases hcomputed
    · exact ⟨s', hs', hform⟩
  · exact eq_constant_of_isLocal hfolded hs

/-- An age that is compared with a sum: the sum becomes a constant, and the age stays on the left. -/
theorem normalForm_of_fold_age :
    let age := member (parameter ⟨"w", "WebUser"⟩) ⟨"age", .named "WebUser", .int32⟩
    let sum := binary (constant (.int32 20)) (.arithmetic .add) (constant (.int32 1))
    let folded := binary age (.compare .greater) (constant (.int32 21))
    fold (binary age (.compare .greater) sum) = .ok folded ∧
    (∀ s ∈ folded.nodes, (∀ n ∈ s.nodes, n.isExcluded = false) → ∃ v, s = constant v) ∧
    (∃ s', folded.at? [0] = some s' ∧ s'.form = age.form) ∧ fold folded = .ok folded := by
  intro age sum folded
  have hfold : fold (binary age (.compare .greater) sum) = .ok folded := rfl
  obtain ⟨hconstants, hplaces, hagain⟩ := normalForm_of_fold hfold
  have hexcluded : ∃ n ∈ age.nodes, n.isExcluded = true := ⟨parameter ⟨"w", "WebUser"⟩, by simp [age, nodes], rfl⟩
  exact ⟨hfold, hconstants, hplaces [0] age rfl hexcluded, hagain⟩

end DocumentSearch.Expr
