import DocumentSearch.Mapping.Document
import DocumentSearch.Query
import DocumentSearch.Proofs.Steps

/-!
# Reserved members in queries

What a mapping says of reserved members plays no part in a query. Two mappings that differ in nothing else compile it
to the same request, and make the same results from a response, or fail with the same error (`Query.agree_compile`).

Filters, projections and orderings each look for fields on a way of their own. All of them ask the mapping with names
for reserved members, and this one is the same for both (`Mapping.AgreeBesidesReserved.withReserved_eq`).
-/

namespace DocumentSearch

/-- The expression is a reserved member, conversions aside. -/
def Expr.isReserved (e : Expr) : Bool := e.member?.any fun (_, m) => m.owner == .reserved

/-! ### Mappings -/

namespace Mapping

variable {mapping mapping' : Mapping}

/-- For the name of a reserved member the mapping is not asked. -/
theorem fieldName?_withReserved (mapping : Mapping) (source : String) (e : Expr) :
    mapping.withReserved.fieldName? source e =
      if e.isReserved then e.member?.map fun (_, m) => reservedName m.name else mapping.fieldName? source e := by
  unfold Expr.isReserved
  simp only [withReserved]
  cases e.member? with
  | none => rfl
  | some found =>
    obtain ⟨target?, name, owner, type⟩ := found
    cases owner <;> rfl

/-- The mappings agree in everything but what they say of reserved members. -/
structure AgreeBesidesReserved (mapping mapping' : Mapping) : Prop where
  fieldName? {source : String} {e : Expr} : e.isReserved = false →
    mapping'.fieldName? source e = mapping.fieldName? source e
  formatValue : mapping'.formatValue = mapping.formatValue
  documentType? : mapping'.documentType? = mapping.documentType?
  typeSelection? : mapping'.typeSelection? = mapping.typeSelection?
  readValue : mapping'.readValue = mapping.readValue
  fieldType? : mapping'.fieldType? = mapping.fieldType?

theorem AgreeBesidesReserved.withReserved_eq (h : mapping.AgreeBesidesReserved mapping') :
    mapping'.withReserved = mapping.withReserved := by
  have hname : mapping'.withReserved.fieldName? = mapping.withReserved.fieldName? := by
    funext source e
    rw [fieldName?_withReserved, fieldName?_withReserved]
    cases he : e.isReserved with
    | true => rfl
    | false => exact h.fieldName? he
  unfold withReserved
  rw [Mapping.mk.injEq]
  exact ⟨hname, h.formatValue, h.documentType?, h.typeSelection?, h.readValue, h.fieldType?⟩

end Mapping

/-! ### Results -/

/-- Of the mapping a scope needs only how values are read. -/
theorem Document.scope_congr {mapping mapping' : Mapping} (h : mapping'.readValue = mapping.readValue)
    (document : Document) : document.scope mapping' = document.scope mapping := by
  unfold scope fieldValue singleValue
  rw [h]

theorem ResultReader.results_withMapping (reader : ResultReader) {mapping : Mapping}
    (h : mapping.readValue = reader.mapping.readValue) (response : SearchResponse) :
    ({ reader with mapping } : ResultReader).results response = reader.results response := by
  have hresult : ({ reader with mapping } : ResultReader).result = reader.result := by
    funext hit
    unfold result Projection.apply element
    simp only [Document.scope_congr h, h]
  unfold results element
  rw [hresult]

/-! ### Queries -/

namespace Query

variable {mapping mapping' : Mapping}

private theorem criteria_eq (h : mapping.AgreeBesidesReserved mapping') (query : Query) :
    query.criteria mapping' = query.criteria mapping := by
  unfold criteria filterCriteria
  rw [h.withReserved_eq, h.typeSelection?]

private theorem resultProjection_eq (h : mapping.AgreeBesidesReserved mapping') (query : Query) :
    query.resultProjection mapping' = query.resultProjection mapping := by
  unfold resultProjection Projection.ofExpr
  rw [h.withReserved_eq]

private theorem sortOption_eq (h : mapping.AgreeBesidesReserved mapping') :
    sortOption mapping' = sortOption mapping := by
  unfold sortOption
  rw [h.withReserved_eq, h.fieldType?]

/-- Mappings that agree in everything but reserved members make the same of a query: the same request with the same
document for it, the same projection with the same fields, and the same results from any response, or the same error. -/
theorem agree_compile (h : mapping.AgreeBesidesReserved mapping') (query : Query) :
    Agree (fun compiled compiled' => compiled'.request = compiled.request ∧
        compiled'.reader.projection = compiled.reader.projection ∧
        compiled'.request.body mapping' = compiled.request.body mapping ∧
        ∀ response, compiled'.reader.results response = compiled.reader.results response)
      (query.compile mapping) (query.compile mapping') := by
  unfold compile
  rw [criteria_eq h, resultProjection_eq h, sortOption_eq h, h.documentType?]
  -- the steps are the same, and so the first error is
  have hsame {α : Type} (x : Except CompileError α) : Agree Eq x x := Agree.refl (fun _ => rfl) x
  refine (hsame _).bind fun criteria _ hcriteria => (hsame _).bind fun projection _ hprojection =>
    (hsame _).bind fun sort _ hsort => Agree.pure ?_
  subst hcriteria hprojection hsort
  refine ⟨rfl, rfl, ?_, ?_⟩
  · unfold SearchRequest.body
    rw [h.formatValue]
  · exact ResultReader.results_withMapping ⟨mapping, query.source, projection, query.cardinality⟩ h.readValue

/-- Documents by their score, under a mapping that has names of its own for reserved members. -/
theorem agree_compile_score :
    let score : Expr := .staticMember ⟨"score", .reserved, .float⟩
    let id : Expr := .staticMember ⟨"id", .reserved, .string⟩
    let name : Expr := .member (.parameter ⟨"w", "WebUser"⟩) ⟨"name", .named "WebUser", .string⟩
    let query : Query := {
      source := "WebUser"
      filters := [.binary (.convert score .int32) (.compare .greater) (.constant (.int32 1))]
      projection := some (.record "tuple" [("item1", name), ("item2", score), ("item3", id)])
      orderBy := [⟨score, false⟩, ⟨name, true⟩] }
    let mapping : Mapping := (DocumentMapping.mk .plain []).toMapping
    let mapping' : Mapping :=
      { mapping with fieldName? source e := if e.isReserved then some "custom" else mapping.fieldName? source e }
    mapping.AgreeBesidesReserved mapping' ∧ mapping.fieldName? "WebUser" score = none ∧
      mapping'.fieldName? "WebUser" score = some "custom" ∧
      ∃ compiled compiled', query.compile mapping = .ok compiled ∧ query.compile mapping' = .ok compiled' ∧
        compiled.request.fields = ["name", "_score", "_id"] ∧
        compiled.request.sort.map SortOption.field = ["_score", "name"] ∧
        compiled'.request = compiled.request ∧ compiled'.reader.projection = compiled.reader.projection := by
  intro score id name query mapping mapping'
  have hagree : mapping.AgreeBesidesReserved mapping' :=
    { fieldName? := fun he => if_neg (by simp [he])
      formatValue := rfl
      documentType? := rfl
      typeSelection? := rfl
      readValue := rfl
      fieldType? := rfl }
  obtain ⟨compiled, hcompile, hfields, hsort⟩ : ∃ compiled, query.compile mapping = .ok compiled ∧
    compiled.request.fields = ["name", "_score", "_id"] ∧
    compiled.request.sort.map SortOption.field = ["_score", "name"] := ⟨_, rfl, rfl, rfl⟩
  have h := agree_compile hagree query
  rw [hcompile] at h
  cases hcompile' : query.compile mapping' with
  | error error =>
    rw [hcompile'] at h
    cases h
  | ok compiled' =>
    rw [hcompile'] at h
    exact ⟨hagree, rfl, rfl, compiled, compiled', hcompile, rfl, hfields, hsort, h.1, h.2.1⟩

end Query

end DocumentSearch
