import DocumentSearch.Mapping.Document
import DocumentSearch.Query
import DocumentSearch.Proofs.Criteria.Predicate
import DocumentSearch.Proofs.Criteria.Wire

/-!
# Queries and their filters

The query of a request is the conjunction of the selection by type and of the filters (`acceptsBody_compile`). The
criteria of filters are canonical, and a conjunction of these is written in a form that the engine reads as one.
-/

namespace DocumentSearch

open Criteria

/-! ### The query of a request -/

private theorem get?_given {name name' : String} (h : (name' == name) = false) (j : Option Json)
    (rest : Members Json) : Members.get? (SearchRequest.given name j ++ rest) name' = rest.get? name' := by
  cases j with
  | none => rfl
  | some j => simp [SearchRequest.given, Members.get?, List.lookup_cons, h]

private theorem get?_nonEmpty {name name' : String} (h : (name' == name) = false) (items : List Json)
    (rest : Members Json) : Members.get? (SearchRequest.nonEmpty name items ++ rest) name' = rest.get? name' := by
  unfold SearchRequest.nonEmpty
  split
  · rfl
  · simp [Members.get?, List.lookup_cons, h]

private theorem get?_given_none (name : String) (rest : Members Json) :
    Members.get? (SearchRequest.given name none ++ rest) name = rest.get? name := rfl

theorem SearchRequest.get?_query (mapping : Mapping) (request : SearchRequest) :
    (request.body mapping).get? "query" = request.query.map (·.toJson mapping.formatValue) := by
  unfold SearchRequest.body
  cases request.query with
  | some c => rfl
  | none =>
    -- no other member of the body has this name
    simp only [Json.get?, List.append_assoc, Option.map_none]
    rw [get?_given_none, get?_nonEmpty (by decide), get?_nonEmpty (by decide), get?_given (by decide),
      get?_given (by decide), ← List.append_nil (given "min_score" _),
      get?_given (by decide)]
    rfl

namespace Query

/-- The criterion that is left out of a request holds of every document. -/
private theorem acceptsBody_of_queryOf (mapping : Mapping) (E : Engine) {request : SearchRequest} {c : Criteria}
    (hquery : request.query = queryOf c) (hcanonical : c.Canonical) (hleaves : c.Leaves (.compiled False)) :
    E.acceptsBody (request.body mapping) = c.holds (.ofEngine E mapping.formatValue) := by
  have hread := accepts_toJson E mapping.formatValue (P := .compiled False) (fun _ h => h) hleaves
    (demandsOptional_of_canonical hcanonical)
  rw [Engine.acceptsBody, SearchRequest.get?_query, hquery]
  cases c with
  | matchAll => rfl
  | _ => exact hread

/-! ### Filters -/

/-- A document type is selected by a leaf. -/
private theorem isLeafOf_typeSelection (options : MappingOptions) {source : String} {c : Criteria}
    (h : c ∈ DocumentMapping.typeSelection? options source) : c.IsLeafOf (.compiled False) := by
  obtain ⟨field, -, h⟩ := Option.bind_eq_some_iff.1 h
  cases hterm : Checked.term field (.string (DocumentMapping.documentType options source)) none with
  | error e => rw [hterm] at h; cases h
  | ok d =>
    rw [hterm] at h
    cases h
    obtain ⟨hne, rfl⟩ := Checked.term_eq_ok.1 hterm
    exact ⟨rfl, hne, trivial⟩

private theorem filterCriteria_eq_ok {mapping : Mapping} {source : String} {filter : Expr} {c : Criteria} :
    filterCriteria mapping source filter = .ok c ↔
      ∃ folded, filter.fold = .ok folded ∧ ofPredicate mapping.withReserved source folded = .ok c := by
  unfold filterCriteria folded
  simp only [bind_eq_ok, mapError_eq_ok]

theorem compile_query {mapping : Mapping} {query : Query} {compiled : CompiledQuery}
    (h : query.compile mapping = .ok compiled) :
    ∃ filters, query.filters.mapM (filterCriteria mapping query.source) = .ok filters ∧
      compiled.request.query = queryOf (.and ((mapping.typeSelection? query.source).toList ++ filters)) := by
  obtain ⟨c, hc, h⟩ := bind_eq_ok.1 h
  obtain ⟨projection, -, h⟩ := bind_eq_ok.1 h
  obtain ⟨sort, -, h⟩ := bind_eq_ok.1 h
  obtain ⟨filters, hfilters, hc⟩ := bind_eq_ok.1 hc
  cases hc
  cases h
  exact ⟨filters, hfilters, rfl⟩

/-- The engine accepts a document for the request of a compiled query where the document is of the right type and the
criterion of each folded filter holds. -/
theorem acceptsBody_compile (mapping : DocumentMapping) {query : Query} {compiled : CompiledQuery}
    (h : query.compile mapping.toMapping = .ok compiled)
    (hfilters : ∀ filter ∈ query.filters, Method.containsAll ∉ filter.methods) (E : Engine) :
    E.acceptsBody (compiled.request.body mapping.toMapping) = true ↔
      (∀ c ∈ mapping.toMapping.typeSelection? query.source,
        c.holds (.ofEngine E mapping.toMapping.formatValue) = true) ∧
      ∀ filter ∈ query.filters, ∃ folded c, filter.fold = .ok folded ∧
        ofPredicate mapping.toMapping.withReserved query.source folded = .ok c ∧
        c.holds (.ofEngine E mapping.toMapping.formatValue) = true := by
  obtain ⟨criteria, hcriteria, hquery⟩ := compile_query h
  -- all the criteria that are conjoined are canonical and without hints, and so is their conjunction
  have hselection : ∀ c ∈ (mapping.toMapping.typeSelection? query.source).toList, c.IsLeafOf (.compiled False) :=
    fun c hc => isLeafOf_typeSelection mapping.options (Option.mem_toList.1 hc)
  have hfilter : ∀ c ∈ criteria, c.Canonical ∧ c.Leaves (.compiled False) := by
    intro c hc
    obtain ⟨filter, hmem, hfilter⟩ := (mem_of_mapM_eq_ok hcriteria).1 c hc
    obtain ⟨folded, hfold, hpredicate⟩ := filterCriteria_eq_ok.1 hfilter
    refine ⟨canonical_ofPredicate hpredicate, leaves_ofPredicate (fun hall => ?_) hpredicate⟩
    exact hfilters filter hmem (Expr.methods_of_fold hfold hall)
  have hcanonical : ∀ c ∈ (mapping.toMapping.typeSelection? query.source).toList ++ criteria, c.Canonical :=
    List.forall_mem_append.2 ⟨fun c hc => .leaf (hselection c hc).1, fun c hc => (hfilter c hc).1⟩
  have hleaves : ∀ c ∈ (mapping.toMapping.typeSelection? query.source).toList ++ criteria,
      c.Leaves (.compiled False) :=
    List.forall_mem_append.2 ⟨fun c hc => (hselection c hc).2, fun c hc => (hfilter c hc).2⟩
  rw [acceptsBody_of_queryOf mapping.toMapping E hquery (canonical_and hcanonical) (leaves_and hleaves),
    holds_and_of_canonical _ hcanonical, List.all_append, Bool.and_eq_true, List.all_eq_true, List.all_eq_true,
    forall_mem_iff_of_mapM_eq_ok hcriteria]
  simp only [Option.mem_toList, Option.mem_def, filterCriteria_eq_ok]
  refine and_congr_right fun _ => forall₂_congr fun filter _ => ?_
  constructor
  · rintro ⟨c, ⟨folded, hfold, hc⟩, hholds⟩
    exact ⟨folded, c, hfold, hc, hholds⟩
  · rintro ⟨folded, c, hfold, hc, hholds⟩
    exact ⟨c, ⟨folded, hfold, hc⟩, hholds⟩

/-- Users of an age, found by an engine that knows of one such user only. -/
theorem acceptsBody_compile_age :
    let adults : Expr := .binary (.member (.parameter ⟨"w", "WebUser"⟩) ⟨"age", .named "WebUser", .int32⟩)
      (.compare .greaterOrEqual) (.constant (.int32 21))
    let query : Query := { source := "WebUser", filters := [adults] }
    let mapping : DocumentMapping := { options := { MappingOptions.plain with typeField := some "type" } }
    let E : Engine := { leaf := fun _ field _ => field == "age" || field == "type", other := fun _ => false }
    Method.containsAll ∉ adults.methods ∧ ∃ compiled, query.compile mapping.toMapping = .ok compiled ∧
      E.acceptsBody (compiled.request.body mapping.toMapping) = true := by
  intro adults query mapping E
  have hmethods : Method.containsAll ∉ adults.methods := by decide
  have hfilters : ∀ filter ∈ query.filters, Method.containsAll ∉ filter.methods := by simpa [query] using hmethods
  obtain ⟨compiled, hcompile⟩ : ∃ compiled, query.compile mapping.toMapping = .ok compiled := ⟨_, rfl⟩
  refine ⟨hmethods, compiled, hcompile, (acceptsBody_compile mapping hcompile hfilters E).2 ⟨?_, ?_⟩⟩
  · intro c hc
    cases (show some (term "type" (.string "WebUser") none) = some c from hc)
    rfl
  · intro filter hfilter
    rw [List.mem_singleton.1 hfilter]
    exact ⟨_, _, rfl, rfl, rfl⟩

end Query

end DocumentSearch
