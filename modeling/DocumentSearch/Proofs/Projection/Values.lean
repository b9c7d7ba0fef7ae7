import DocumentSearch.Mapping.Document
import DocumentSearch.Proofs.Projection

/-!
# Values of projections

Where a scope looks up every field as the value of the member that it stands for, a projection has the value of the
expression that it was made from, or the same error (`Projection.eval_body_of_ofExpr`).

A lookup takes the place of a whole member, its target included. So what the members within the target are looked up
as plays no part, and what is left of the expression is evaluated in the same order as before.
-/

namespace DocumentSearch

/-- The scope looks up the field of each member among the expressions as what the member evaluates to, be it a value or
an error. -/
def Scope.ReadsMembers (scope : Scope) (mapping : Mapping) (source : String) (es : List Expr) : Prop :=
  ∀ s ∈ es, s.isMember = true → ∀ key, mapping.fieldName? source s = some key →
    scope.lookup key s.type = s.eval scope

namespace Expr

variable {mapping : Mapping} {source : String} {scope : Scope} {es : List Expr}

mutual

/-- With lookups in place of its members an expression evaluates to what it evaluates to without them. -/
theorem eval_withLookups (hscope : scope.ReadsMembers mapping source es) : ∀ {e r : Expr}, e.nodes ⊆ es →
    e.withLookups mapping source = .ok r → r.eval scope = e.eval scope
  | parameter _, _, _, h | constant _, _, _, h | lookup .., _, _, h => by
    rw [withLookups] at h
    cases h
    rfl
  | lambda .., _, _, h => by
    rw [withLookups] at h
    exact absurd h throw_ne_ok
  | staticMember m, _, hes, h => by
    rw [withLookups] at h
    cases hkey : mapping.fieldName? source (staticMember m) with
    | some key =>
      rw [hkey] at h
      cases h
      exact hscope _ (hes (mem_nodes_self _)) rfl key hkey
    | none =>
      rw [hkey] at h
      cases h
      rfl
  | member target m, _, hes, h => by
    rw [withLookups] at h
    cases hkey : mapping.fieldName? source (member target m) with
    | some key =>
      rw [hkey] at h
      cases h
      exact hscope _ (hes (mem_nodes_self _)) rfl key hkey
    | none =>
      rw [hkey] at h
      obtain ⟨target', ht, h⟩ := bind_eq_ok.1 h
      cases h
      rw [nodes, List.cons_subset] at hes
      rw [eval, eval, eval_withLookups hscope hes.2 ht]
  | call target m args, _, hes, h => by
    rw [withLookups] at h
    obtain ⟨target', ht, h⟩ := bind_eq_ok.1 h
    obtain ⟨args', ha, h⟩ := bind_eq_ok.1 h
    cases h
    rw [nodes, List.cons_subset, List.append_subset] at hes
    rw [eval, eval, eval_withLookups hscope hes.2.1 ht, evalAll_withLookupsInAll hscope hes.2.2 ha]
  | staticCall m args, _, hes, h => by
    rw [withLookups] at h
    obtain ⟨args', ha, h⟩ := bind_eq_ok.1 h
    cases h
    rw [nodes, List.cons_subset] at hes
    rw [eval, eval, evalAll_withLookupsInAll hscope hes.2 ha]
  | unary _ operand, _, hes, h | convert operand _, _, hes, h => by
    rw [withLookups] at h
    obtain ⟨operand', ho, h⟩ := bind_eq_ok.1 h
    cases h
    rw [nodes, List.cons_subset] at hes
    rw [eval, eval, eval_withLookups hscope hes.2 ho]
  | binary left operator right, _, hes, h => by
    rw [withLookups] at h
    obtain ⟨left', hl, h⟩ := bind_eq_ok.1 h
    obtain ⟨right', hr, h⟩ := bind_eq_ok.1 h
    cases h
    rw [nodes, List.cons_subset, List.append_subset] at hes
    have hleft := eval_withLookups hscope hes.2.1 hl
    have hright := eval_withLookups hscope hes.2.2 hr
    -- the equation of `eval` depends on the operator, which decides whether `right` is evaluated at all
    cases operator <;> rw [eval, eval, hleft, hright]
  | record _ members, _, hes, h => by
    rw [withLookups] at h
    obtain ⟨members', hm, h⟩ := bind_eq_ok.1 h
    cases h
    rw [nodes, List.cons_subset] at hes
    rw [eval, eval, evalMembers_withLookupsInMembers hscope hes.2 hm]

private theorem evalAll_withLookupsInAll (hscope : scope.ReadsMembers mapping source es) : ∀ {args rs : List Expr},
    nodesOfAll args ⊆ es → withLookupsInAll mapping source args = .ok rs → evalAll scope rs = evalAll scope args
  | [], _, _, h => by
    cases h
    rfl
  | e :: rest, _, hes, h => by
    rw [withLookupsInAll] at h
    obtain ⟨r, he, h⟩ := bind_eq_ok.1 h
    obtain ⟨rs, hrest, h⟩ := bind_eq_ok.1 h
    cases h
    rw [nodesOfAll, List.append_subset] at hes
    rw [evalAll, evalAll, eval_withLookups hscope hes.1 he, evalAll_withLookupsInAll hscope hes.2 hrest]

private theorem evalMembers_withLookupsInMembers (hscope : scope.ReadsMembers mapping source es) :
    ∀ {members rs : List (String × Expr)}, nodesOfMembers members ⊆ es →
      withLookupsInMembers mapping source members = .ok rs → evalMembers scope rs = evalMembers scope members
  | [], _, _, h => by
    cases h
    rfl
  | (_, e) :: rest, _, hes, h => by
    rw [withLookupsInMembers] at h
    obtain ⟨r, he, h⟩ := bind_eq_ok.1 h
    obtain ⟨rs, hrest, h⟩ := bind_eq_ok.1 h
    cases h
    rw [nodesOfMembers, List.append_subset] at hes
    rw [evalMembers, evalMembers, eval_withLookups hscope hes.1 he,
      evalMembers_withLookupsInMembers hscope hes.2 hrest]

end

end Expr

namespace Projection

/-- A projection has the value, or the error, of the body that it was made from, in every scope that looks up the
fields of members as the members themselves. -/
theorem eval_body_of_ofExpr {mapping : Mapping} {source : String} {e : Expr} {p : Projection}
    (h : ofExpr mapping source e = .ok p) {scope : Scope}
    (hscope : scope.ReadsMembers mapping.withReserved source e.nodes) : p.body.eval scope = e.body.eval scope := by
  obtain ⟨body, hbody, h⟩ := bind_eq_ok.1 h
  cases h
  exact Expr.eval_withLookups hscope e.nodes_body_subset hbody

/-- A user whose returned fields are those of the stored document: the city of the address, the test whether there is a
nickname, and a comparison that is left out. -/
theorem eval_body_of_ofExpr_city :
    let user : Expr := .parameter ⟨"w", "WebUser"⟩
    let address : Expr := .member user ⟨"address", .named "WebUser", .object "Address"⟩
    let city : Expr := .member address ⟨"city", .named "Address", .string⟩
    let nickname : Expr := .member user ⟨"nickname", .named "WebUser", .nullable .string⟩
    let known : Expr := .binary (.member nickname ⟨"has_value", .nullable, .bool⟩) .and
      (.binary nickname .equal (.constant (.string "Ann")))
    let e : Expr := .lambda [⟨"w", "WebUser"⟩] (.record "tuple" [("item1", .convert city .any), ("item2", known)])
    let mapping : DocumentMapping := { options := .plain }
    let place : Json := .object [("city", .string "Oslo")]
    let document : Document :=
      { fields := some [("address", place), ("address.city", .array [.string "Oslo"])]
        source := some (.object [("address", place), ("nickname", .null)]) }
    ∃ p, ofExpr mapping.toMapping "WebUser" e = .ok p ∧ p.fields = ["address.city", "nickname"] ∧
      (document.scope mapping.toMapping).ReadsMembers mapping.toMapping.withReserved "WebUser" e.nodes ∧
      p.body.eval (document.scope mapping.toMapping) = e.body.eval (document.scope mapping.toMapping) := by
  intro user address city nickname known e mapping place document
  have hscope : (document.scope mapping.toMapping).ReadsMembers mapping.toMapping.withReserved "WebUser" e.nodes := by
    intro s hs hmember key hkey
    have hmembers : e.nodes.filter Expr.isMember =
      [city, address, .member nickname ⟨"has_value", .nullable, .bool⟩, nickname, nickname] := rfl
    have hmem := List.mem_filter.2 ⟨hs, hmember⟩
    simp only [hmembers, List.mem_cons, List.not_mem_nil, or_false] at hmem
    -- the test whether there is a nickname has no field; the others are looked up as what the source holds
    rcases hmem with rfl | rfl | rfl | rfl | rfl <;> cases hkey <;> rfl
  obtain ⟨p, hp, hfields⟩ : ∃ p, ofExpr mapping.toMapping "WebUser" e = .ok p ∧
    p.fields = ["address.city", "nickname"] := ⟨_, rfl, rfl⟩
  exact ⟨p, hp, hfields, hscope, eval_body_of_ofExpr hp hscope⟩

end Projection

end DocumentSearch
