import DocumentSearch.Mapping.Document
import DocumentSearch.Projection
import DocumentSearch.Criteria.Predicate
import DocumentSearch.Proofs.Expr.Fold

/-!
# Lookups in place of members

A member that the mapping has a field for becomes a lookup of this field, whatever its target is. The document mapping
has fields for members only (`isMember_of_fieldName?`), and none for the test whether an optional value is there.
-/

namespace DocumentSearch

/-- The expression reads a member. -/
def Expr.isMember : Expr → Bool
  | member .. | staticMember _ => true
  | _ => false

/-- The expression itself is no conversion. -/
def Expr.isConversion : Expr → Bool
  | convert .. => true
  | _ => false

theorem Expr.eq_member_of_member? {e target : Expr} {m : Member} (he : e.isMember = true)
    (h : e.member? = some (some target, m)) : e = member target m := by
  cases e <;> cases he <;> cases h
  rfl

/-- The scope has a value for each key, whatever type is asked for. -/
def Scope.Reads (scope : Scope) (ρ : String → Value) : Prop := ∀ key type, scope.lookup key type = .ok (ρ key)

/-! ### Fields of the document mapping -/

namespace DocumentMapping

variable {mapping : DocumentMapping} {source field : String} {e : Expr}

theorem isMember_of_fieldName? (he : e.isConversion = false)
    (h : mapping.toMapping.withReserved.fieldName? source e = some field) : e.isMember = true := by
  cases e with
  | member | staticMember => rfl
  | convert => cases he
  | parameter p =>
    by_cases hp : p.typeName = source <;>
      simp [Mapping.withReserved, toMapping, fieldName?, path?, Expr.member?, Expr.core, hp] at h
  | _ => simp [Mapping.withReserved, toMapping, fieldName?, path?, Expr.member?, Expr.core] at h

/-- There is no field for the test itself whether an optional value is there. -/
theorem fieldName?_of_isHasValue {target? : Option Expr} {m : Member} (he : e.isMember = true)
    (hmember : e.member? = some (target?, m)) (hm : m.isHasValue = true) :
    mapping.toMapping.withReserved.fieldName? source e = none := by
  obtain ⟨name, owner, type⟩ := m
  simp only [Member.isHasValue, Bool.and_eq_true, beq_iff_eq] at hm
  obtain ⟨rfl, rfl⟩ := hm
  cases e <;> cases he <;> cases hmember <;>
    simp [Mapping.withReserved, toMapping, fieldName?, path?, Expr.member?, Expr.core]

/-- Which field a member has depends on its target by the path of this alone. -/
theorem fieldName?_member_congr {target target' : Expr}
    (h : mapping.path? source target' = mapping.path? source target) (m : Member) :
    mapping.toMapping.withReserved.fieldName? source (.member target' m) =
      mapping.toMapping.withReserved.fieldName? source (.member target m) := by
  have hpath : mapping.path? source (.member target' m) = mapping.path? source (.member target m) := by
    rw [path?, path?, h]
  obtain ⟨name, owner, type⟩ := m
  unfold Mapping.withReserved toMapping fieldName?
  cases owner <;> simp only [Expr.member?, Expr.core, hpath]

/-- A member without a path has no field, unless it is reserved. -/
theorem fieldName?_of_path?_eq_none {target? : Option Expr} {m : Member} (he : e.member? = some (target?, m))
    (hm : m.isLocal = true) (hpath : mapping.path? source e = none) :
    mapping.toMapping.withReserved.fieldName? source e = none := by
  obtain ⟨name, owner, type⟩ := m
  unfold Mapping.withReserved toMapping fieldName?
  cases owner with
  | reserved => cases hm
  | named | nullable | string => simp only [he, hpath]

end DocumentMapping

/-! ### Values of lookups -/

namespace Expr

variable {mapping : Mapping} {source field : String} {scope : Scope} {ρ : String → Value}

/-- A member with a field has the value of this field. -/
theorem eval_withLookups_of_fieldName? (hscope : scope.Reads ρ) {e r : Expr} (he : e.isMember = true)
    (hfield : mapping.fieldName? source e = some field) (hr : e.withLookups mapping source = .ok r) :
    r.eval scope = .ok (ρ field) := by
  cases e <;> cases he <;>
  · rw [withLookups, hfield] at hr
    cases hr
    rw [eval, hscope]

/-- The test whether there is a value looks at the field of its target. -/
theorem eval_withLookups_hasValue (hscope : scope.Reads ρ) {target r : Expr} {m : Member} (hm : m.isHasValue = true)
    (ht : target.isMember = true) (hnone : mapping.fieldName? source (member target m) = none)
    (hfield : mapping.fieldName? source target = some field)
    (hr : (member target m).withLookups mapping source = .ok r) : r.eval scope = .ok (.bool !(ρ field).isNull) := by
  rw [withLookups, hnone] at hr
  obtain ⟨target', ht', hr⟩ := bind_eq_ok.1 hr
  cases hr
  simp only [Member.isHasValue, Bool.and_eq_true, beq_iff_eq] at hm
  rw [eval, eval_withLookups_of_fieldName? hscope ht hfield ht']
  simp [bind, Except.bind, Value.memberValue, hm]

end Expr

end DocumentSearch
