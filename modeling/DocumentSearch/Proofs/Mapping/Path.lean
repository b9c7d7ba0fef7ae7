import Mathlib.Data.List.Induction
import DocumentSearch.Mapping.Document

/-!
# Fields of member chains

The document mapping has a field for an expression exactly if the expression is a chain: accesses to members of
records and to values that may be null, and conversions, one around the other in any order, with a parameter of the
record type inside. The field is the path of the members' names (`fieldName?_eq_some_iff`).

A chain is built from the inside and `path?` looks at it from the outside, so the induction over the accesses begins
with the last one.
-/

namespace DocumentSearch

/-- What an expression may put around another one that is still read from the document. -/
inductive Access where
  /-- A member that is declared on a record type. -/
  | named (name typeName : String) (type : ValueType)
  /-- The value of something that may be null. -/
  | value (type : ValueType)
  | conversion (type : ValueType)

namespace Access

/-- The expression with the access around it. -/
def around (e : Expr) : Access → Expr
  | named name typeName type => .member e ⟨name, .named typeName, type⟩
  | value type => .member e ⟨"value", .nullable, type⟩
  | conversion type => .convert e type

/-- The name that the access is made by. -/
def name? : Access → Option String
  | named name _ _ => some name
  | value _ | conversion _ => none

/-- The names of the members in the order of the accesses. -/
def names (accesses : List Access) : List String := accesses.filterMap name?

/-- The parameter with all accesses around it, the first one innermost. -/
def chain (p : Parameter) (accesses : List Access) : Expr := accesses.foldl around (.parameter p)

theorem chain_concat (p : Parameter) (accesses : List Access) (access : Access) :
    chain p (accesses ++ [access]) = access.around (chain p accesses) := by
  rw [chain, List.foldl_append]
  rfl

theorem names_concat (accesses : List Access) (access : Access) :
    names (accesses ++ [access]) = names accesses ++ access.name?.toList := by
  rw [names, List.filterMap_append]
  cases access <;> rfl

end Access

open Access

namespace DocumentMapping

variable {mapping : DocumentMapping} {source : String}

/-- A member adds its segment to the path; the other accesses leave the path as it is. -/
theorem path?_around (e : Expr) (access : Access) :
    mapping.path? source (access.around e) =
      (mapping.path? source e).map (· ++ access.name?.toList.map mapping.segment) := by
  cases access with
  | named name typeName type => rfl
  | value type | conversion type =>
    simp only [name?, Option.toList_none, List.map_nil, List.append_nil, Option.map_id']
    rfl

/-- The path of a chain is made of the segments of its members, beginning with the innermost one. -/
theorem path?_chain (name : String) (accesses : List Access) :
    mapping.path? source (chain ⟨name, source⟩ accesses) = some ((names accesses).map mapping.segment) := by
  induction accesses using List.reverseRecOn with
  | nil =>
    rw [chain, List.foldl_nil, path?, if_pos rfl]
    rfl
  | append_singleton accesses access ih =>
    rw [chain_concat, path?_around, ih, names_concat, List.map_append]
    rfl

/-- A chain with one more access around it is a chain. -/
private theorem exists_chain_around {e : Expr} (h : ∃ name accesses, e = chain ⟨name, source⟩ accesses)
    (access : Access) : ∃ name accesses, access.around e = chain ⟨name, source⟩ accesses := by
  obtain ⟨name, accesses, rfl⟩ := h
  exact ⟨name, accesses ++ [access], (chain_concat _ _ _).symm⟩

/-- An expression with a path is a chain. -/
theorem exists_chain {e : Expr} {path : List String} (h : mapping.path? source e = some path) :
    ∃ name accesses, e = chain ⟨name, source⟩ accesses := by
  fun_induction mapping.path? source e generalizing path with
  | case1 p hp =>
    subst hp
    exact ⟨p.name, [], rfl⟩
  | case3 e type ih => exact exists_chain_around (ih h) (.conversion type)
  | case4 target m howner hname ih =>
    obtain ⟨name, owner, type⟩ := m
    subst howner hname
    exact exists_chain_around (ih h) (.value type)
  | case6 target m typeName howner ih =>
    obtain ⟨name, owner, type⟩ := m
    subst howner
    obtain ⟨path, hpath, -⟩ := Option.map_eq_some_iff.1 h
    exact exists_chain_around (ih hpath) (.named name typeName type)
  | case2 | case5 | case7 | case8 => cases h

private theorem fieldName?_eq_some_iff_path? {e : Expr} {field : String} :
    mapping.fieldName? source e = some field ↔
      ∃ path, mapping.path? source e = some path ∧ path ≠ [] ∧ field = ".".intercalate path := by
  rw [fieldName?]
  cases mapping.path? source e with
  | none => simp
  | some path => cases path <;> simp [eq_comm]

private theorem map_segment (names : List String) :
    names.map mapping.segment = if mapping.options.camelCaseFieldNames then names.map Text.camelCase else names := by
  unfold segment
  split
  · rfl
  · rw [List.map_id']

/-- The expressions with a field are the chains that access at least one member of a record, and the field is the
path of the names of these members from the document down, in camel case if the mapping is to write them so. -/
theorem fieldName?_eq_some_iff (mapping : DocumentMapping) (source : String) (e : Expr) (field : String) :
    mapping.fieldName? source e = some field ↔
      ∃ name accesses, e = chain ⟨name, source⟩ accesses ∧ names accesses ≠ [] ∧
        field = ".".intercalate (if mapping.options.camelCaseFieldNames then (names accesses).map Text.camelCase
          else names accesses) := by
  rw [fieldName?_eq_some_iff_path?]
  simp only [← map_segment]
  constructor
  · rintro ⟨path, hpath, hne, rfl⟩
    obtain ⟨name, accesses, rfl⟩ := exists_chain hpath
    rw [path?_chain] at hpath
    cases hpath
    exact ⟨name, accesses, rfl, mt List.map_eq_nil_iff.2 hne, rfl⟩
  · rintro ⟨name, accesses, rfl, hne, rfl⟩
    exact ⟨_, path?_chain name accesses, mt List.map_eq_nil_iff.1 hne, rfl⟩

end DocumentMapping

end DocumentSearch
