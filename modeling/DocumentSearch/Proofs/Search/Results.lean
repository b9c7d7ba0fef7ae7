import DocumentSearch.Mapping.Document
import DocumentSearch.Query
import DocumentSearch.Proofs.Members
import DocumentSearch.Proofs.Projection.Lookups

/-!
# What results are made from

The results of a compiled query depend on the identifiers, scores and sources of the hits and on the fields that the
request asks for; what else the engine returns makes no difference (`results_congr`).

A projection reads a document through its scope, and of the scope only the keys that it looks up (`Expr.eval_congr`).
The request lists all of these.
-/

namespace DocumentSearch

/-! ### Hits -/

/-- The hits are the same but for fields that are not named. -/
structure Hit.AgreeOn (names : List String) (hit hit' : Hit) : Prop where
  id : hit.id = hit'.id
  score : hit.score = hit'.score
  source : hit.source = hit'.source
  fields : ∀ name ∈ names, (hit.fields.getD []).get? name = (hit'.fields.getD []).get? name

private theorem Hit.AgreeOn.get?_allFields {names : List String} {hit hit' : Hit} (h : Hit.AgreeOn names hit hit')
    {name : String} (hname : name ∈ names) : hit.allFields.get? name = hit'.allFields.get? name := by
  unfold allFields
  rw [h.id, h.score]
  cases hit'.id <;> cases hit'.score <;> simp only [Members.get?_put, h.fields name hname]

/-- The scopes of such hits differ in the values of fields that are not named, and in nothing else. -/
private theorem Hit.AgreeOn.scope {names : List String} {hit hit' : Hit} (h : Hit.AgreeOn names hit hit')
    (mapping : Mapping) {e : Expr} (he : ∀ key ∈ e.lookupKeys, key ∈ names) :
    (hit.document.scope mapping).AgreeOn (hit'.document.scope mapping) e.nodes where
  parameter _ := by
    unfold Document.scope Hit.document
    rw [h.source]
  lookup {key type} hlookup := by
    have hfields := h.get?_allFields (he key (Expr.mem_lookupKeys hlookup))
    unfold Document.scope Hit.document Document.fieldValue
    simp only [Option.bind_some, hfields]

/-! ### Results -/

theorem ResultReader.result_congr (reader : ResultReader) {names : List String} {hit hit' : Hit}
    (h : Hit.AgreeOn names hit hit')
    (hkeys : ∀ p ∈ reader.projection, ∀ key ∈ p.body.lookupKeys, key ∈ names) :
    reader.result hit = reader.result hit' := by
  unfold result
  cases hp : reader.projection with
  | none => simp only [h.source]
  | some p =>
    have hagree := h.scope reader.mapping (hkeys p hp)
    simp only [Projection.apply, Expr.eval_congr hagree (List.Subset.refl _)]

namespace Query

/-- The projection of a compiled query is that of the folded expression, and its fields are those of the request. -/
private theorem compile_projection {mapping : Mapping} {query : Query} {compiled : CompiledQuery}
    (h : query.compile mapping = .ok compiled) {p : Projection} (hp : p ∈ compiled.reader.projection) :
    compiled.request.fields = p.fields ∧ ∃ e folded, query.projection = some e ∧ e.fold = .ok folded ∧
      Projection.ofExpr mapping query.source folded = .ok p := by
  obtain ⟨_, -, h⟩ := bind_eq_ok.1 h
  obtain ⟨projection, hprojection, h⟩ := bind_eq_ok.1 h
  obtain ⟨_, -, h⟩ := bind_eq_ok.1 h
  cases h
  cases hp
  refine ⟨rfl, ?_⟩
  unfold resultProjection at hprojection
  split at hprojection
  · cases hprojection
  · rename_i e he
    split at hprojection
    · cases hprojection
    · obtain ⟨folded, hfold, hprojection⟩ := bind_eq_ok.1 hprojection
      obtain ⟨p', hp', hprojection⟩ := bind_eq_ok.1 hprojection
      cases hprojection
      exact ⟨e, folded, he, mapError_eq_ok.1 hfold, hp'⟩

/-- The request asks for every field that results are made from: responses whose hits agree on these, and on
identifiers, scores and sources, have the same results or the same error. -/
theorem results_congr {mapping : Mapping} {query : Query} {compiled : CompiledQuery}
    (h : query.compile mapping = .ok compiled) (hprojection : ∀ e ∈ query.projection, e.lookupKeys = [])
    {response response' : SearchResponse}
    (hhits : List.Forall₂ (Hit.AgreeOn compiled.request.fields) response.hits.hits response'.hits.hits) :
    compiled.reader.results response = compiled.reader.results response' := by
  have hkeys : ∀ p ∈ compiled.reader.projection, ∀ key ∈ p.body.lookupKeys, key ∈ compiled.request.fields := by
    intro p hp key hkey
    obtain ⟨hfields, e, folded, he, hfold, hp⟩ := compile_projection h hp
    have hnone : folded.lookupKeys = [] := (Expr.lookupKeys_of_fold hfold).trans (hprojection e he)
    rw [hfields]
    exact (Projection.mem_fields_iff hp hnone).2 hkey
  have hresults : response.hits.hits.mapM compiled.reader.result = response'.hits.hits.mapM compiled.reader.result :=
    mapM_eq_of_forall₂ (hhits.imp fun _ _ hhit => compiled.reader.result_congr hhit hkeys)
  unfold ResultReader.results
  rw [hresults]

/-- Names in upper case with the scores of users. In one of the responses there is an age as well, and of a user without
a name there are no fields or an empty list of these. -/
theorem results_congr_name :
    let user : Expr := .parameter ⟨"w", "WebUser"⟩
    let name : Expr := .member user ⟨"name", .named "WebUser", .string⟩
    let projection : Expr := .record "tuple"
      [("item1", .call name ⟨"to_uppercase", .string⟩ []), ("item2", .staticMember ⟨"score", .reserved, .float⟩)]
    let query : Query := { source := "WebUser", projection := some projection }
    let mapping : DocumentMapping := { options := .plain }
    let response (more : Members Json) (nameless : Option (Members Json)) : SearchResponse :=
      { hits := { hits := [{ id := some "1", fields := some (("name", .array [.string "Ana"]) :: more) },
        { id := some "2", fields := nameless }] } }
    projection.lookupKeys = [] ∧ ∃ compiled, query.compile mapping.toMapping = .ok compiled ∧
      compiled.reader.results (response [("age", .array [.integer 41])] none) =
        compiled.reader.results (response [] (some [])) := by
  intro user name projection query mapping response
  have hprojection : ∀ e ∈ query.projection, e.lookupKeys = [] := by
    rintro e ⟨⟩
    rfl
  obtain ⟨compiled, hcompile, hfields⟩ : ∃ compiled, query.compile mapping.toMapping = .ok compiled ∧
    compiled.request.fields = ["name", "_score"] := ⟨_, rfl, rfl⟩
  refine ⟨rfl, compiled, hcompile, results_congr hcompile hprojection ?_⟩
  rw [hfields]
  refine .cons ⟨rfl, rfl, rfl, ?_⟩ (.cons ⟨rfl, rfl, rfl, ?_⟩ .nil) <;> simp [Members.get?, List.lookup_cons]

end Query

end DocumentSearch
