import DocumentSearch.Criteria.Predicate
import DocumentSearch.Expr.Fold
import DocumentSearch.Search.Request
import DocumentSearch.Search.Results

/-!
# Queries

A query over the documents of one record type is compiled into a search request and the way to make results from the
response.

Whatever does not depend on a document is computed first. The first part that cannot be compiled decides the error: a
filter, then the projection, then an ordering.
-/

namespace DocumentSearch

/-- An order of results by the value of an expression. -/
structure OrderBy where
  key : Expr
  ascending : Bool

/-- A query over the documents of a record type. -/
structure Query where
  source : String
  /-- Predicates that all must hold. -/
  filters : List Expr := []
  projection : Option Expr := none
  orderBy : List OrderBy := []
  /-- How many results to leave out. -/
  skip : Option Nat := none
  /-- How many results to return at most. -/
  take : Option Nat := none
  minScore : Option Float := none
  cardinality : Cardinality := .all

/-- A search, and what is to be done with the response. -/
structure CompiledQuery where
  request : SearchRequest
  reader : ResultReader

namespace Query

/-- A folded expression as a step of a compilation. -/
def folded (e : Expr) : Except CompileError Expr := e.fold.mapError .evaluation

/-- The criterion of a predicate that has been folded. -/
def filterCriteria (mapping : Mapping) (source : String) (predicate : Expr) : Except CompileError Criteria := do
  Criteria.ofPredicate mapping.withReserved source (← folded predicate)

/-- The criterion that all filters hold, and that the document has the right type. -/
def criteria (mapping : Mapping) (query : Query) : Except CompileError Criteria := do
  let filters ← query.filters.mapM (filterCriteria mapping query.source)
  return .and ((mapping.typeSelection? query.source).toList ++ filters)

/-- A criterion as a part of a request. One that always holds is left out. -/
def queryOf : Criteria → Option Criteria
  | .matchAll => none
  | c => some c

/-- A projection that gives the document as a whole. -/
def isWhole (projection : Expr) : Bool := projection.body.parameter?.isSome

/-- The projection over returned fields, unless whole documents are wanted. -/
def resultProjection (mapping : Mapping) (query : Query) : Except CompileError (Option Projection) :=
  match query.projection with
  | none => .ok none
  | some e =>
    if isWhole e then
      .ok none
    else do
      return some (← Projection.ofExpr mapping query.source (← folded e))

/-- An order of results by a field. -/
def sortOption (mapping : Mapping) (source : String) (order : OrderBy) : Except CompileError SortOption := do
  let key := (← folded order.key).body
  match mapping.withReserved.fieldName? source key with
  | some field => return ⟨field, order.ascending, mapping.fieldType? field⟩
  | none => throw (.unresolvable key.inspect)

/-- How many results to ask for: no more than are needed to tell whether their number is right. -/
def size (query : Query) : Option Nat :=
  let atMost (n : Nat) : Nat := (query.take.map (min n)).getD n
  match query.cardinality with
  | .all => query.take
  | .first _ => some (atMost 1)
  | .single _ => some (atMost 2)

/-- The compiled form of a query. -/
def compile (mapping : Mapping) (query : Query) : Except CompileError CompiledQuery := do
  let criteria ← query.criteria mapping
  let projection ← query.resultProjection mapping
  let sort ← query.orderBy.mapM (sortOption mapping query.source)
  return {
    request := {
      documentType := mapping.documentType? query.source
      query := queryOf criteria
      fields := (projection.map Projection.fields).getD []
      sort
      start := query.skip
      size := query.size
      minScore := query.minScore }
    reader := { mapping, source := query.source, projection, cardinality := query.cardinality } }

end Query

end DocumentSearch
