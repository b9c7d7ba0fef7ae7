import DocumentSearch.Proofs.Expr.Parts
import DocumentSearch.Proofs.Projection

/-!
# Which members become lookups

Under the document mapping no member with a field is left in a projection, its type is that of the expression, and to
make a projection of it again changes nothing. There is none exactly if a lambda occurs outside all members with
fields (`Projection.ofExpr_normalForm_and_failure`).

A step either puts a lookup in place of a member or keeps the form of an expression over its changed parts
(`Expr.withLookups_cases`). A member that is kept may stand over a lookup afterwards, but a lookup is not on the way
from a document to anything: a changed target has no path or the one that it had (`Expr.path?_withLookups`), and so
the member has no field after the step either.
-/

namespace DocumentSearch

namespace Expr

section

variable (mapping : Mapping) (source : String)

/-- The field that the mapping has for the expression, if this reads a member. -/
def memberField? (e : Expr) : Option String :=
  if e.isMember then mapping.fieldName? source e else none

/-- The expression itself is a lambda. -/
def isLambda : Expr → Bool
  | lambda .. => true
  | _ => false

/-- A lambda occurs in the expression outside all members that have fields. -/
inductive HasOuterLambda : Expr → Prop
  | lambda (parameters : List Parameter) (body : Expr) : HasOuterLambda (lambda parameters body)
  | part {e child : Expr} : e.memberField? mapping source = none → child ∈ e.children → HasOuterLambda child →
      HasOuterLambda e

end

theorem isMember_form (e : Expr) : e.form.isMember = e.isMember := by
  cases e <;> rfl

theorem isLambda_form (e : Expr) : e.form.isLambda = e.isLambda := by
  cases e <;> rfl

/-! ### What a step does -/

variable {mapping : Mapping} {source : String}

private theorem forall₂_withLookupsInAll {es rs : List Expr} (h : withLookupsInAll mapping source es = .ok rs) :
    List.Forall₂ (fun e r => e.withLookups mapping source = .ok r) es rs := by
  induction es generalizing rs with
  | nil =>
    cases h
    exact .nil
  | cons e rest ih =>
    rw [withLookupsInAll] at h
    obtain ⟨r, he, h⟩ := bind_eq_ok.1 h
    obtain ⟨rs', hrest, h⟩ := bind_eq_ok.1 h
    cases h
    exact .cons he (ih hrest)

private theorem forall₂_withLookupsInMembers {es rs : List (String × Expr)}
    (h : withLookupsInMembers mapping source es = .ok rs) :
    (rs.map fun m => (m.1, constant .null)) = (es.map fun m => (m.1, constant .null)) ∧
      List.Forall₂ (fun e r => e.withLookups mapping source = .ok r) (es.map Prod.snd) (rs.map Prod.snd) := by
  induction es generalizing rs with
  | nil =>
    cases h
    exact ⟨rfl, .nil⟩
  | cons m rest ih =>
    rw [withLookupsInMembers] at h
    obtain ⟨r, he, h⟩ := bind_eq_ok.1 h
    obtain ⟨rs', hrest, h⟩ := bind_eq_ok.1 h
    cases h
    obtain ⟨hnames, hrest⟩ := ih hrest
    refine ⟨?_, .cons he hrest⟩
    rw [List.map_cons, List.map_cons, hnames]

/-- A member with a field becomes the lookup of it. Any other expression keeps its form over its changed parts, and it
is no lambda. -/
theorem withLookups_cases {e r : Expr} (h : e.withLookups mapping source = .ok r) :
    (∃ key, e.memberField? mapping source = some key ∧ r = lookup key e.type) ∨
    (e.memberField? mapping source = none ∧ e.isLambda = false ∧ r.form = e.form ∧
      List.Forall₂ (fun child r => child.withLookups mapping source = .ok r) e.children r.children) := by
  cases e with
  | parameter | constant | lookup =>
    rw [withLookups] at h
    cases h
    exact .inr ⟨rfl, rfl, rfl, .nil⟩
  | lambda parameters body =>
    rw [withLookups] at h
    exact absurd h throw_ne_ok
  | staticMember m =>
    rw [withLookups] at h
    cases hkey : mapping.fieldName? source (staticMember m) with
    | some key =>
      rw [hkey] at h
      cases h
      exact .inl ⟨key, hkey, rfl⟩
    | none =>
      rw [hkey] at h
      cases h
      exact .inr ⟨hkey, rfl, rfl, .nil⟩
  | member target m =>
    rw [withLookups] at h
    cases hkey : mapping.fieldName? source (member target m) with
    | some key =>
      rw [hkey] at h
      cases h
      exact .inl ⟨key, hkey, rfl⟩
    | none =>
      rw [hkey] at h
      obtain ⟨target', ht, h⟩ := bind_eq_ok.1 h
      cases h
      exact .inr ⟨hkey, rfl, rfl, .cons ht .nil⟩
  | unary | convert =>
    rw [withLookups] at h
    obtain ⟨operand', ho, h⟩ := bind_eq_ok.1 h
    cases h
    exact .inr ⟨rfl, rfl, rfl, .cons ho .nil⟩
  | binary left operator right =>
    rw [withLookups] at h
    obtain ⟨left', hl, h⟩ := bind_eq_ok.1 h
    obtain ⟨right', hr, h⟩ := bind_eq_ok.1 h
    cases h
    exact .inr ⟨rfl, rfl, rfl, .cons hl (.cons hr .nil)⟩
  | call target m args =>
    rw [withLookups] at h
    obtain ⟨target', ht, h⟩ := bind_eq_ok.1 h
    obtain ⟨args', ha, h⟩ := bind_eq_ok.1 h
    cases h
    have hargs := forall₂_withLookupsInAll ha
    refine .inr ⟨rfl, rfl, ?_, .cons ht hargs⟩
    rw [form, form, List.map_const', List.map_const', hargs.length_eq]
  | staticCall m args =>
    rw [withLookups] at h
    obtain ⟨args', ha, h⟩ := bind_eq_ok.1 h
    cases h
    have hargs := forall₂_withLookupsInAll ha
    refine .inr ⟨rfl, rfl, ?_, hargs⟩
    rw [form, form, List.map_const', List.map_const', hargs.length_eq]
  | record typeName members =>
    rw [withLookups] at h
    obtain ⟨members', hm, h⟩ := bind_eq_ok.1 h
    cases h
    obtain ⟨hnames, hmembers⟩ := forall₂_withLookupsInMembers hm
    refine .inr ⟨rfl, rfl, ?_, hmembers⟩
    rw [form, form, hnames]

/-! ### Failures -/

private theorem withLookupsInAll_eq_error {es : List Expr} {error : CompileError}
    (h : withLookupsInAll mapping source es = .error error) :
    ∃ e ∈ es, e.withLookups mapping source = .error error := by
  induction es with
  | nil => cases h
  | cons e rest ih =>
    rw [withLookupsInAll] at h
    rcases bind_eq_error.1 h with he | ⟨_, _, hrest⟩
    · exact ⟨e, .head _, he⟩
    · obtain ⟨e', he', h⟩ := ih (bind_pure_eq_error.1 hrest)
      exact ⟨e', .tail _ he', h⟩

private theorem withLookupsInMembers_eq_error {es : List (String × Expr)} {error : CompileError}
    (h : withLookupsInMembers mapping source es = .error error) :
    ∃ e ∈ es.map Prod.snd, e.withLookups mapping source = .error error := by
  induction es with
  | nil => cases h
  | cons m rest ih =>
    rw [withLookupsInMembers] at h
    rcases bind_eq_error.1 h with he | ⟨_, _, hrest⟩
    · exact ⟨m.2, .head _, he⟩
    · obtain ⟨e', he', h⟩ := ih (bind_pure_eq_error.1 hrest)
      exact ⟨e', .tail _ he', h⟩

/-- A step fails on a lambda, and else where it fails on a part. -/
theorem withLookups_eq_error {e : Expr} {error : CompileError} (h : e.withLookups mapping source = .error error) :
    (e.isLambda = true ∧ error = .unsupported .nestedLambda) ∨
    (e.memberField? mapping source = none ∧
      ∃ child ∈ e.children, child.withLookups mapping source = .error error) := by
  cases e with
  | parameter | constant | lookup =>
    rw [withLookups] at h
    cases h
  | lambda parameters body =>
    rw [withLookups] at h
    cases h
    exact .inl ⟨rfl, rfl⟩
  | staticMember m =>
    rw [withLookups] at h
    cases hkey : mapping.fieldName? source (staticMember m) <;> rw [hkey] at h <;> cases h
  | member target m =>
    rw [withLookups] at h
    cases hkey : mapping.fieldName? source (member target m) with
    | some key =>
      rw [hkey] at h
      cases h
    | none =>
      rw [hkey] at h
      exact .inr ⟨hkey, target, .head _, bind_pure_eq_error.1 h⟩
  | unary _ operand | convert operand =>
    rw [withLookups] at h
    exact .inr ⟨rfl, operand, .head _, bind_pure_eq_error.1 h⟩
  | binary left operator right =>
    rw [withLookups] at h
    rcases bind_eq_error.1 h with hl | ⟨_, _, hr⟩
    · exact .inr ⟨rfl, left, .head _, hl⟩
    · exact .inr ⟨rfl, right, .tail _ (.head _), bind_pure_eq_error.1 hr⟩
  | call target m args =>
    rw [withLookups] at h
    rcases bind_eq_error.1 h with ht | ⟨_, _, ha⟩
    · exact .inr ⟨rfl, target, .head _, ht⟩
    · obtain ⟨arg, harg, h⟩ := withLookupsInAll_eq_error (bind_pure_eq_error.1 ha)
      exact .inr ⟨rfl, arg, .tail _ harg, h⟩
  | staticCall m args =>
    rw [withLookups] at h
    exact .inr ⟨rfl, withLookupsInAll_eq_error (bind_pure_eq_error.1 h)⟩
  | record typeName members =>
    rw [withLookups] at h
    exact .inr ⟨rfl, withLookupsInMembers_eq_error (bind_pure_eq_error.1 h)⟩

private theorem hasOuterLambda_of_eq_error {e : Expr} {error : CompileError}
    (h : e.withLookups mapping source = .error error) :
    error = .unsupported .nestedLambda ∧ HasOuterLambda mapping source e := by
  induction e using induction_on_children with
  | step e ih =>
    rcases withLookups_eq_error h with ⟨hlambda, herror⟩ | ⟨hfield, child, hchild, hfails⟩
    · refine ⟨herror, ?_⟩
      cases e with
      | lambda parameters body => exact .lambda parameters body
      | _ => cases hlambda
    · obtain ⟨herror, hchild'⟩ := ih child hchild hfails
      exact ⟨herror, .part hfield hchild hchild'⟩

private theorem withLookups_ne_ok {e r : Expr} (h : HasOuterLambda mapping source e) :
    e.withLookups mapping source ≠ .ok r := by
  induction h generalizing r with
  | lambda parameters body =>
    rw [withLookups]
    exact throw_ne_ok
  | part hfield hchild _ ih =>
    intro hr
    rcases withLookups_cases hr with ⟨key, hkey, _⟩ | ⟨_, _, _, hchildren⟩
    · rw [hfield] at hkey
      cases hkey
    · obtain ⟨r', _, hr'⟩ := (mem_of_forall₂ hchildren).2 _ hchild
      exact ih hr'

/-- The only failure is a lambda outside all members with fields. -/
theorem withLookups_eq_error_iff {e : Expr} {error : CompileError} :
    e.withLookups mapping source = .error error ↔
      error = .unsupported .nestedLambda ∧ HasOuterLambda mapping source e := by
  constructor
  · exact hasOuterLambda_of_eq_error
  · rintro ⟨rfl, hlambda⟩
    cases h : e.withLookups mapping source with
    | ok r => exact absurd h (withLookups_ne_ok hlambda)
    | error error => rw [(hasOuterLambda_of_eq_error h).1]

/-! ### Types -/

/-- A lookup has the type of the member for which it stands, and so every expression keeps its type. -/
theorem type_withLookups {e r : Expr} (h : e.withLookups mapping source = .ok r) : r.type = e.type := by
  induction e using induction_on_children generalizing r with
  | step e ih =>
    rcases withLookups_cases h with ⟨key, _, rfl⟩ | ⟨_, _, hform, hchildren⟩
    · rfl
    · have htypes : List.Forall₂ (fun child r => r.type = child.type) e.children r.children :=
        forall₂_imp_of_mem hchildren fun child hchild child' hchanged => ih child hchild hchanged
      exact type_congr hform htypes

/-! ### Fields that are read -/

private theorem fieldsReadByAll_eq_flatMap (es : List Expr) :
    fieldsReadByAll mapping source es = es.flatMap (fieldsRead mapping source) := by
  induction es with
  | nil => rfl
  | cons e rest ih => rw [fieldsReadByAll, ih, List.flatMap_cons]

private theorem fieldsReadByMembers_eq_flatMap (es : List (String × Expr)) :
    fieldsReadByMembers mapping source es = (es.map Prod.snd).flatMap (fieldsRead mapping source) := by
  induction es with
  | nil => rfl
  | cons m rest ih => rw [fieldsReadByMembers, ih, List.map_cons, List.flatMap_cons]

/-- An expression without a field of its own reads the fields that its parts read. -/
theorem fieldsRead_of_memberField?_eq_none {e : Expr} (h : e.memberField? mapping source = none) :
    e.fieldsRead mapping source = e.children.flatMap (fieldsRead mapping source) := by
  cases e with
  | parameter | constant | lookup => rw [fieldsRead, children, List.flatMap_nil]
  | staticMember m =>
    have hnone : mapping.fieldName? source (staticMember m) = none := h
    rw [fieldsRead, hnone]
    rfl
  | member target m =>
    have hnone : mapping.fieldName? source (member target m) = none := h
    rw [fieldsRead, hnone, children, List.flatMap_singleton]
  | lambda | unary | convert => rw [fieldsRead, children, List.flatMap_singleton]
  | binary => rw [fieldsRead, children, List.flatMap_cons, List.flatMap_singleton]
  | call => rw [fieldsRead, children, List.flatMap_cons, fieldsReadByAll_eq_flatMap]
  | staticCall => rw [fieldsRead, children, fieldsReadByAll_eq_flatMap]
  | record => rw [fieldsRead, children, fieldsReadByMembers_eq_flatMap]

theorem fieldsRead_of_memberField?_eq_some {e : Expr} {key : String} (h : e.memberField? mapping source = some key) :
    e.fieldsRead mapping source = [key] := by
  cases e with
  | staticMember m =>
    have hkey : mapping.fieldName? source (staticMember m) = some key := h
    rw [fieldsRead, hkey]
    rfl
  | member target m =>
    have hkey : mapping.fieldName? source (member target m) = some key := h
    rw [fieldsRead, hkey]
  | _ => cases h

theorem fieldsRead_eq_nil {e : Expr} (h : ∀ s ∈ e.nodes, s.memberField? mapping source = none) :
    e.fieldsRead mapping source = [] := by
  induction e using induction_on_children with
  | step e ih =>
    rw [fieldsRead_of_memberField?_eq_none (h e (mem_nodes_self e)), List.flatMap_eq_nil_iff]
    intro child hchild
    refine ih child hchild fun s hs => ?_
    exact h s (nodes_subset_of_mem_children hchild hs)

/-- Where nothing is looked up before, the lookups are those of the fields that are read. -/
theorem lookupKeys_withLookups {e r : Expr} (h : e.withLookups mapping source = .ok r) (hnone : e.lookupKeys = []) :
    r.lookupKeys = e.fieldsRead mapping source := by
  induction e using induction_on_children generalizing r with
  | step e ih =>
    rw [lookupKeys, filterMap_nodes, List.append_eq_nil_iff, List.flatMap_eq_nil_iff] at hnone
    rcases withLookups_cases h with ⟨key, hfield, rfl⟩ | ⟨hfield, _, hform, hchildren⟩
    · rw [fieldsRead_of_memberField?_eq_some hfield]
      rfl
    · have hself : r.lookupKey? = e.lookupKey? := by
        rw [← lookupKey?_form, hform, lookupKey?_form]
      have hparts := forall₂_imp_of_mem hchildren fun child hchild child' hchanged =>
        ih child hchild hchanged (hnone.2 child hchild)
      rw [lookupKeys, filterMap_nodes, hself, hnone.1, fieldsRead_of_memberField?_eq_none hfield]
      exact flatMap_eq_of_forall₂ hparts

/-! ### Expressions in which nothing is left to do -/

private theorem withLookupsInAll_eq_self {es : List Expr} (h : ∀ e ∈ es, e.withLookups mapping source = .ok e) :
    withLookupsInAll mapping source es = .ok es := by
  induction es with
  | nil => rfl
  | cons e rest ih =>
    rw [List.forall_mem_cons] at h
    rw [withLookupsInAll, h.1, ih h.2]
    rfl

private theorem withLookupsInMembers_eq_self {es : List (String × Expr)}
    (h : ∀ e ∈ es.map Prod.snd, e.withLookups mapping source = .ok e) :
    withLookupsInMembers mapping source es = .ok es := by
  induction es with
  | nil => rfl
  | cons m rest ih =>
    rw [List.map_cons, List.forall_mem_cons] at h
    rw [withLookupsInMembers, h.1, ih h.2]
    rfl

/-- Where the parts of an expression stay as they are, so does the expression unless it has a field or is a lambda. -/
theorem withLookups_eq_self_of_children {e : Expr} (hfield : e.memberField? mapping source = none)
    (hlambda : e.isLambda = false) (h : ∀ child ∈ e.children, child.withLookups mapping source = .ok child) :
    e.withLookups mapping source = .ok e := by
  cases e with
  | parameter | constant | lookup =>
    rw [withLookups]
    rfl
  | lambda => cases hlambda
  | staticMember m =>
    have hnone : mapping.fieldName? source (staticMember m) = none := hfield
    rw [withLookups, hnone]
    rfl
  | member target m =>
    have hnone : mapping.fieldName? source (member target m) = none := hfield
    have htarget := h target (.head _)
    rw [withLookups, hnone]
    exact bind_eq_ok.2 ⟨_, htarget, rfl⟩
  | unary | convert =>
    have hoperand := h _ (.head _)
    rw [withLookups]
    exact bind_eq_ok.2 ⟨_, hoperand, rfl⟩
  | binary left operator right =>
    have hleft := h left (.head _)
    have hright := h right (.tail _ (.head _))
    rw [withLookups]
    exact bind_eq_ok.2 ⟨_, hleft, bind_eq_ok.2 ⟨_, hright, rfl⟩⟩
  | call target m args =>
    have htarget := h target (.head _)
    have hargs := withLookupsInAll_eq_self fun arg harg => h arg (.tail _ harg)
    rw [withLookups]
    exact bind_eq_ok.2 ⟨_, htarget, bind_eq_ok.2 ⟨_, hargs, rfl⟩⟩
  | staticCall m args =>
    have hargs := withLookupsInAll_eq_self h
    rw [withLookups]
    exact bind_eq_ok.2 ⟨_, hargs, rfl⟩
  | record typeName members =>
    have hmembers := withLookupsInMembers_eq_self h
    rw [withLookups]
    exact bind_eq_ok.2 ⟨_, hmembers, rfl⟩

/-- An expression without lambdas and without members that have fields stays as it is. -/
theorem withLookups_eq_self {e : Expr}
    (h : ∀ s ∈ e.nodes, s.memberField? mapping source = none ∧ s.isLambda = false) :
    e.withLookups mapping source = .ok e := by
  induction e using induction_on_children with
  | step e ih =>
    obtain ⟨hfield, hlambda⟩ := h e (mem_nodes_self e)
    refine withLookups_eq_self_of_children hfield hlambda fun child hchild => ih child hchild ?_
    intro s hs
    exact h s (nodes_subset_of_mem_children hchild hs)

end Expr

/-! ### Members that are left -/

namespace DocumentMapping

variable {mapping : DocumentMapping} {source : String}

/-- A changed expression has no path, or the one that it had before. -/
theorem path?_withLookups {e r : Expr} (h : e.withLookups mapping.toMapping.withReserved source = .ok r) :
    mapping.path? source r = none ∨ mapping.path? source r = mapping.path? source e := by
  induction e using Expr.induction_on_children generalizing r with
  | step e ih =>
    rcases Expr.withLookups_cases h with ⟨key, _, rfl⟩ | ⟨_, _, hform, hchildren⟩
    · exact .inl rfl
    · cases e with
      | parameter p =>
        right
        cases r <;> cases hform
        rfl
      | member target m =>
        obtain ⟨target', rfl⟩ := Expr.eq_member_of_form hform
        obtain - | ⟨htarget, -⟩ := hchildren
        rcases ih target (.head _) htarget with hnone | heq
        · left
          rw [path?, hnone]
          cases m.owner <;> simp
        · right
          rw [path?, path?, heq]
      | convert operand type =>
        obtain ⟨operand', rfl⟩ := Expr.eq_convert_of_form hform
        obtain - | ⟨hoperand, -⟩ := hchildren
        have hpath := ih operand (.head _) hoperand
        exact hpath
      | _ =>
        left
        cases r <;> first | rfl | cases hform

private theorem isLocal_of_fieldName?_eq_none {target : Expr} {m : Member}
    (h : mapping.toMapping.withReserved.fieldName? source (.member target m) = none) : m.isLocal = true := by
  obtain ⟨name, owner, type⟩ := m
  cases owner with
  | reserved => cases h
  | named | nullable | string => rfl

end DocumentMapping

namespace Expr

variable {mapping : DocumentMapping} {source : String}

/-- A member that is kept has no field over its changed target either. -/
private theorem memberField?_of_form {e r : Expr} (hfield : e.memberField? mapping.toMapping.withReserved source = none)
    (hform : r.form = e.form)
    (hchildren : List.Forall₂ (fun child r => child.withLookups mapping.toMapping.withReserved source = .ok r)
      e.children r.children) : r.memberField? mapping.toMapping.withReserved source = none := by
  cases e with
  | member target m =>
    obtain ⟨target', rfl⟩ := eq_member_of_form hform
    obtain - | ⟨htarget, -⟩ := hchildren
    rcases DocumentMapping.path?_withLookups htarget with hnone | heq
    · have hpath : mapping.path? source (member target' m) = none := by
        rw [DocumentMapping.path?, hnone]
        cases m.owner <;> simp
      exact DocumentMapping.fieldName?_of_path?_eq_none rfl
        (DocumentMapping.isLocal_of_fieldName?_eq_none hfield) hpath
    · exact (DocumentMapping.fieldName?_member_congr heq m).trans hfield
  | staticMember m =>
    cases r <;> cases hform
    exact hfield
  | _ =>
    rw [memberField?, ← isMember_form, hform]
    rfl

/-- Of what is left nothing has a field and nothing is a lambda. -/
theorem memberField?_withLookups {e r s : Expr} (h : e.withLookups mapping.toMapping.withReserved source = .ok r)
    (hs : s ∈ r.nodes) :
    s.memberField? mapping.toMapping.withReserved source = none ∧ s.isLambda = false := by
  induction e using induction_on_children generalizing r with
  | step e ih =>
    rcases withLookups_cases h with ⟨key, _, rfl⟩ | ⟨hfield, hlambda, hform, hchildren⟩
    · obtain rfl := List.mem_singleton.1 hs
      exact ⟨rfl, rfl⟩
    · rcases mem_nodes_iff.1 hs with rfl | ⟨child', hchild', hs⟩
      · refine ⟨memberField?_of_form hfield hform hchildren, ?_⟩
        rw [← isLambda_form, hform, isLambda_form, hlambda]
      · obtain ⟨child, hchild, hchanged⟩ := (mem_of_forall₂ hchildren).1 child' hchild'
        exact ih child hchild hchanged hs

end Expr

namespace Projection

/-- A projection looks up the fields that it lists, and nothing else unless the expression does. -/
theorem mem_fields_iff {mapping : Mapping} {source key : String} {e : Expr} {p : Projection}
    (h : ofExpr mapping source e = .ok p) (hnone : e.lookupKeys = []) : key ∈ p.fields ↔ key ∈ p.body.lookupKeys := by
  obtain ⟨body, hbody, h⟩ := bind_eq_ok.1 h
  cases h
  rw [List.mem_eraseDups, Expr.lookupKeys_withLookups hbody (e.lookupKeys_body.trans hnone)]

private theorem nodup_eraseDups (names : List String) : names.eraseDups.Nodup := by
  match names with
  | [] => exact List.nodup_nil
  | name :: rest =>
    rw [List.eraseDups_cons, List.nodup_cons, List.mem_eraseDups]
    refine ⟨?_, nodup_eraseDups _⟩
    simp
termination_by names.length
decreasing_by exact Nat.lt_succ_of_le (List.length_filter_le _ _)

/-- A projection lists the fields that it looks up, each once and in the order in which they are looked up first. No
member with a field is left in it, its type is that of the expression, and as an expression it is a projection of
itself that reads no fields. The only reason why there is none is a lambda outside all members with fields. -/
theorem ofExpr_normalForm_and_failure (mapping : DocumentMapping) (source : String) (e : Expr) :
    (∀ p, ofExpr mapping.toMapping source e = .ok p →
      (e.lookupKeys = [] → p.fields = p.body.lookupKeys.eraseDups) ∧ p.fields.Nodup ∧
      (∀ s ∈ p.body.nodes, s.memberField? mapping.toMapping.withReserved source = none) ∧
      p.body.type = e.body.type ∧
      ofExpr mapping.toMapping source p.body = .ok ⟨p.body, []⟩) ∧
    ∀ error, ofExpr mapping.toMapping source e = .error error ↔
      error = .unsupported .nestedLambda ∧ Expr.HasOuterLambda mapping.toMapping.withReserved source e.body := by
  constructor
  · intro p hp
    obtain ⟨body, hbody, hp⟩ := bind_eq_ok.1 hp
    cases hp
    have hleft : ∀ s ∈ body.nodes,
        s.memberField? mapping.toMapping.withReserved source = none ∧ s.isLambda = false :=
      fun s hs => Expr.memberField?_withLookups hbody hs
    refine ⟨fun hnone => ?_, nodup_eraseDups _, fun s hs => (hleft s hs).1, Expr.type_withLookups hbody, ?_⟩
    · rw [Expr.lookupKeys_withLookups hbody (e.lookupKeys_body.trans hnone)]
    · have hself : body.body = body := by
        have hlambda := (hleft body (Expr.mem_nodes_self body)).2
        cases body with
        | lambda => cases hlambda
        | _ => rfl
      rw [ofExpr, hself, Expr.withLookups_eq_self hleft, Expr.fieldsRead_eq_nil fun s hs => (hleft s hs).1]
      rfl
  · intro error
    rw [ofExpr, bind_pure_eq_error, Expr.withLookups_eq_error_iff]

/-- The name of a user beside the score and the name in upper case, and a test of the tags that is a lambda. -/
theorem ofExpr_normalForm_and_failure_name :
    let user : Expr := .parameter ⟨"w", "WebUser"⟩
    let name : Expr := .member (.convert user .any) ⟨"name", .named "WebUser", .string⟩
    let e : Expr := .lambda [⟨"w", "WebUser"⟩] (.record "tuple"
      [("item1", name), ("item2", .staticMember ⟨"score", .reserved, .float⟩),
        ("item3", .call name ⟨"to_uppercase", .string⟩ [])])
    let tags : Expr := .member user ⟨"tags", .named "WebUser", .sequence .string⟩
    let test : Expr := .call tags ⟨"any", .sequence⟩ [.lambda [⟨"t", "String"⟩] (.constant (.bool true))]
    let mapping : DocumentMapping := { options := .plain }
    e.lookupKeys = [] ∧ (∃ p, ofExpr mapping.toMapping "WebUser" e = .ok p ∧ p.fields = ["name", "_score"] ∧
      p.fields = p.body.lookupKeys.eraseDups ∧ p.body.type = .object "tuple" ∧
      ofExpr mapping.toMapping "WebUser" p.body = .ok ⟨p.body, []⟩) ∧
    ofExpr mapping.toMapping "WebUser" test = .error (.unsupported .nestedLambda) := by
  intro user name e tags test mapping
  have hnone : e.lookupKeys = [] := rfl
  obtain ⟨p, hp, hfields⟩ : ∃ p, ofExpr mapping.toMapping "WebUser" e = .ok p ∧ p.fields = ["name", "_score"] :=
    ⟨_, rfl, rfl⟩
  obtain ⟨hkeys, -, -, htype, hagain⟩ := (ofExpr_normalForm_and_failure mapping "WebUser" e).1 p hp
  have hlambda : Expr.HasOuterLambda mapping.toMapping.withReserved "WebUser" test.body :=
    .part rfl (.tail _ (.head _)) (.lambda _ _)
  exact ⟨hnone, ⟨p, hp, hfields, hkeys hnone, htype, hagain⟩,
    ((ofExpr_normalForm_and_failure mapping "WebUser" test).2 _).2 ⟨rfl, hlambda⟩⟩

end Projection

end DocumentSearch
