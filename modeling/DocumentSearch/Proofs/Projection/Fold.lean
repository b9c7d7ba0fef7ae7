import DocumentSearch.Proofs.Expr.NormalForm
import DocumentSearch.Proofs.Projection.Lookups

/-!
# Projections of folded expressions

Folding an expression before it is made a projection changes nothing that can be observed under the document mapping:
the same error or the same list of fields, and a projection with the same value in every scope (`agree_ofExpr_fold`).

A field is a path of members that begins at a parameter. A local expression has no parameter, and so no field
(`withLookups_of_isLocal`); and on the way from a parameter to a member there is nothing that folding could compute
(`path?_of_folded`).
-/

namespace DocumentSearch

/-! ### Fields of local and of folded expressions -/

namespace DocumentMapping

variable {mapping : DocumentMapping} {source : String}

private theorem path?_of_isLocal : ∀ {e : Expr}, e.isLocal = true → mapping.path? source e = none
  | .parameter _, h => by cases h
  | .convert e _, h => path?_of_isLocal (e := e) h
  | .member target m, h => by
    simp only [Expr.isLocal, Bool.and_eq_true] at h
    have ih := path?_of_isLocal h.2
    rw [path?, ih]
    cases m.owner <;> simp
  | .constant _, _ | .staticMember _, _ | .call .., _ | .staticCall .., _ | .lambda .., _ | .unary .., _
  | .binary .., _ | .record .., _ | .lookup .., _ => rfl

private theorem path?_of_folded {e e' : Expr} (h : e.Folded e') : mapping.path? source e' = mapping.path? source e := by
  cases h with
  | computed hlocal _ => exact (path?_of_isLocal hlocal).symm
  | member _ ht => rw [path?, path?, path?_of_folded ht]
  | convert _ ho => rw [path?, path?, path?_of_folded ho]
  | kept | call | staticCall | lambda | unary | binary | record => rfl

theorem fieldName?_member_of_isLocal {target : Expr} {m : Member} (h : (Expr.member target m).isLocal = true) :
    mapping.toMapping.withReserved.fieldName? source (.member target m) = none := by
  have hm : m.isLocal = true := by
    simp only [Expr.isLocal, Bool.and_eq_true] at h
    exact h.1
  exact fieldName?_of_path?_eq_none rfl hm (path?_of_isLocal h)

theorem fieldName?_staticMember_of_isLocal {m : Member} (h : (Expr.staticMember m).isLocal = true) :
    mapping.toMapping.withReserved.fieldName? source (.staticMember m) = none :=
  fieldName?_of_path?_eq_none rfl h rfl

/-- Folding the target of a member leaves the member with its field, or without one. -/
theorem fieldName?_member_of_folded {target target' : Expr} (h : target.Folded target') (m : Member) :
    mapping.toMapping.withReserved.fieldName? source (.member target' m) =
      mapping.toMapping.withReserved.fieldName? source (.member target m) :=
  fieldName?_member_congr (path?_of_folded h) m

end DocumentMapping

namespace Expr

variable {mapping : DocumentMapping} {source : String}

/-! ### Local expressions -/

theorem memberField?_of_isLocal {e : Expr} (h : e.isLocal = true) :
    e.memberField? mapping.toMapping.withReserved source = none := by
  cases e with
  | member target m => exact DocumentMapping.fieldName?_member_of_isLocal h
  | staticMember m => exact DocumentMapping.fieldName?_staticMember_of_isLocal h
  | _ => rfl

/-- In a local expression nothing is replaced by a lookup. -/
theorem withLookups_of_isLocal {e : Expr} (h : e.isLocal = true) :
    e.withLookups mapping.toMapping.withReserved source = .ok e := by
  refine withLookups_eq_self fun s hs => ?_
  have hlocal := isLocal_of_mem_nodes h hs
  refine ⟨memberField?_of_isLocal hlocal, ?_⟩
  cases s with
  | lambda => cases hlocal
  | _ => rfl

private theorem fieldsRead_of_isLocal {e : Expr} (h : e.isLocal = true) :
    e.fieldsRead mapping.toMapping.withReserved source = [] :=
  fieldsRead_eq_nil fun _ hs => memberField?_of_isLocal (isLocal_of_mem_nodes h hs)

/-! ### Fields that are read -/

private theorem memberField?_of_folded {e e' : Expr} (h : Folded e e') :
    e'.memberField? mapping.toMapping.withReserved source = e.memberField? mapping.toMapping.withReserved source := by
  cases h with
  | computed hlocal _ => exact (memberField?_of_isLocal hlocal).symm
  | member _ ht => exact DocumentMapping.fieldName?_member_of_folded ht _
  | kept | call | staticCall | lambda | unary | convert | binary | record => rfl

private theorem fieldsRead_of_folded {e e' : Expr} (h : Folded e e') :
    e'.fieldsRead mapping.toMapping.withReserved source = e.fieldsRead mapping.toMapping.withReserved source := by
  induction e using induction_on_children generalizing e' with
  | step e ih =>
    rcases folded_cases h with ⟨hlocal, v, rfl⟩ | ⟨_, _, hchildren⟩
    · rw [fieldsRead_of_isLocal hlocal, fieldsRead]
    · have hself : e'.memberField? mapping.toMapping.withReserved source =
          e.memberField? mapping.toMapping.withReserved source := memberField?_of_folded h
      cases hfield : e.memberField? mapping.toMapping.withReserved source with
      | some key =>
        rw [hfield] at hself
        rw [fieldsRead_of_memberField?_eq_some hself, fieldsRead_of_memberField?_eq_some hfield]
      | none =>
        rw [hfield] at hself
        have hparts := forall₂_imp_of_mem hchildren fun child hchild _ hfolded => ih child hchild hfolded
        rw [fieldsRead_of_memberField?_eq_none hself, fieldsRead_of_memberField?_eq_none hfield]
        exact flatMap_eq_of_forall₂ hparts

/-! ### Values -/

/-- The expressions have the same value, or the same error, in every scope. -/
def SameValue (e e' : Expr) : Prop := ∀ scope : Scope, e'.eval scope = e.eval scope

mutual

private theorem agree_withLookups_of_folded : ∀ {e e' : Expr}, Folded e e' →
    Agree SameValue (e.withLookups mapping.toMapping.withReserved source)
      (e'.withLookups mapping.toMapping.withReserved source)
  | _, _, .computed hlocal hv => by
    rw [withLookups_of_isLocal hlocal, withLookups]
    intro scope
    rw [eval_of_isLocal scope hlocal, hv, eval]
  | _, _, .kept .. => Agree.refl (fun _ _ => rfl) _
  | .member target m, _, .member _ ht => by
    rw [withLookups, withLookups, DocumentMapping.fieldName?_member_of_folded ht]
    cases mapping.toMapping.withReserved.fieldName? source (member target m) with
    | some key => exact Agree.pure fun _ => rfl
    | none =>
      refine (agree_withLookups_of_folded ht).bind fun r r' hr => Agree.pure fun scope => ?_
      rw [eval, eval, hr scope]
  | _, _, .call _ ht ha => by
    rw [withLookups, withLookups]
    refine (agree_withLookups_of_folded ht).bind fun r r' hr =>
      (agree_withLookupsInAll_of_foldedAll ha).bind fun rs rs' hrs => Agree.pure fun scope => ?_
    rw [eval, eval, hr scope, hrs scope]
  | _, _, .staticCall _ ha => by
    rw [withLookups, withLookups]
    refine (agree_withLookupsInAll_of_foldedAll ha).bind fun rs rs' hrs => Agree.pure fun scope => ?_
    rw [eval, eval, hrs scope]
  | _, _, .lambda _ => by
    -- a lambda within the expression is an error, whatever its body is
    rw [withLookups, withLookups]
    exact rfl
  | _, _, .unary _ ho | _, _, .convert _ ho => by
    rw [withLookups, withLookups]
    refine (agree_withLookups_of_folded ho).bind fun r r' hr => Agree.pure fun scope => ?_
    rw [eval, eval, hr scope]
  | .binary _ operator _, _, .binary _ hl hr => by
    rw [withLookups, withLookups]
    refine (agree_withLookups_of_folded hl).bind fun a a' ha =>
      (agree_withLookups_of_folded hr).bind fun b b' hb => Agree.pure fun scope => ?_
    cases operator <;> rw [eval, eval, ha scope, hb scope]
  | _, _, .record _ hm => by
    rw [withLookups, withLookups]
    refine (agree_withLookupsInMembers_of_foldedMembers hm).bind fun rs rs' hrs => Agree.pure fun scope => ?_
    rw [eval, eval, hrs scope]

private theorem agree_withLookupsInAll_of_foldedAll : ∀ {es es' : List Expr}, FoldedAll es es' →
    Agree (fun rs rs' => ∀ scope, evalAll scope rs' = evalAll scope rs)
      (withLookupsInAll mapping.toMapping.withReserved source es)
      (withLookupsInAll mapping.toMapping.withReserved source es')
  | _, _, .nil => Agree.pure fun _ => rfl
  | _, _, .cons he hrest => by
    rw [withLookupsInAll, withLookupsInAll]
    refine (agree_withLookups_of_folded he).bind fun r r' hr =>
      (agree_withLookupsInAll_of_foldedAll hrest).bind fun rs rs' hrs => Agree.pure fun scope => ?_
    rw [evalAll, evalAll, hr scope, hrs scope]

private theorem agree_withLookupsInMembers_of_foldedMembers : ∀ {es es' : List (String × Expr)},
    FoldedMembers es es' → Agree (fun rs rs' => ∀ scope, evalMembers scope rs' = evalMembers scope rs)
      (withLookupsInMembers mapping.toMapping.withReserved source es)
      (withLookupsInMembers mapping.toMapping.withReserved source es')
  | _, _, .nil => Agree.pure fun _ => rfl
  | _, _, .cons he hrest => by
    rw [withLookupsInMembers, withLookupsInMembers]
    refine (agree_withLookups_of_folded he).bind fun r r' hr =>
      (agree_withLookupsInMembers_of_foldedMembers hrest).bind fun rs rs' hrs => Agree.pure fun scope => ?_
    rw [evalMembers, evalMembers, hr scope, hrs scope]

end

/-- Folding does not add a lambda, nor does it remove one. -/
private theorem folded_body {e e' : Expr} (h : Folded e e') : Folded e.body e'.body := by
  cases h with
  | @computed e v hlocal hv =>
    cases e with
    | lambda => cases hlocal
    | _ => exact .computed hlocal hv
  | @kept e hlocal hchildren =>
    cases e with
    | lambda => cases hchildren
    | _ => exact .kept hlocal hchildren
  | lambda hb => exact hb
  | member hlocal ht => exact .member hlocal ht
  | call hlocal ht ha => exact .call hlocal ht ha
  | staticCall hlocal ha => exact .staticCall hlocal ha
  | unary hlocal ho => exact .unary hlocal ho
  | convert hlocal ho => exact .convert hlocal ho
  | binary hlocal hl hr => exact .binary hlocal hl hr
  | record hlocal hm => exact .record hlocal hm

end Expr

namespace Projection

/-- The projection of a folded expression: it fails where that of the expression does, with the same error, and else
reads the same fields in the same order and has the same value, or the same error, in every scope. -/
theorem agree_ofExpr_fold (mapping : DocumentMapping) (source : String) {e e' : Expr} (h : e.fold = .ok e') :
    Agree (fun p p' => p'.fields = p.fields ∧ ∀ scope : Scope, p'.body.eval scope = p.body.eval scope)
      (ofExpr mapping.toMapping source e) (ofExpr mapping.toMapping source e') := by
  have hbody := Expr.folded_body (Expr.folded_of_fold h)
  refine (Expr.agree_withLookups_of_folded hbody).bind fun r r' hr => Agree.pure ⟨?_, hr⟩
  rw [Expr.fieldsRead_of_folded hbody]

/-- The name of a user beside a computed number and the score, from a lambda. -/
theorem agree_ofExpr_fold_name :
    let name : Expr := .member (.convert (.parameter ⟨"w", "WebUser"⟩) .any) ⟨"name", .named "WebUser", .string⟩
    let sum : Expr := .binary (.constant (.int32 20)) (.arithmetic .add) (.constant (.int32 1))
    let e : Expr := .lambda [⟨"w", "WebUser"⟩] (.record "tuple"
      [("item1", .binary name (.arithmetic .add) sum), ("item2", .staticMember ⟨"score", .reserved, .float⟩)])
    let mapping : DocumentMapping := { options := .plain }
    ∃ e' p p', e.fold = .ok e' ∧ ofExpr mapping.toMapping "WebUser" e = .ok p ∧
      ofExpr mapping.toMapping "WebUser" e' = .ok p' ∧ p.fields = ["name", "_score"] ∧ p'.fields = p.fields ∧
      ∀ scope : Scope, p'.body.eval scope = p.body.eval scope := by
  intro name sum e mapping
  obtain ⟨e', hfold⟩ : ∃ e', e.fold = .ok e' := ⟨_, rfl⟩
  obtain ⟨p, hp, hfields⟩ : ∃ p, ofExpr mapping.toMapping "WebUser" e = .ok p ∧ p.fields = ["name", "_score"] :=
    ⟨_, rfl, rfl⟩
  have hagree := agree_ofExpr_fold mapping "WebUser" hfold
  rw [hp] at hagree
  cases hp' : ofExpr mapping.toMapping "WebUser" e' with
  | error error =>
    rw [hp'] at hagree
    cases hagree
  | ok p' =>
    rw [hp'] at hagree
    exact ⟨e', p, p', hfold, hp, hp', hfields, hagree⟩

end Projection

end DocumentSearch
