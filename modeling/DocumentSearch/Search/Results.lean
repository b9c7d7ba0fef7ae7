import DocumentSearch.Projection
import DocumentSearch.Search.Response
import DocumentSearch.Text.Structure

/-!
# Results

`ResultReader.results` makes results from the hits of a response: one from each hit, in order, of which a query may
want all, the first or the only one.
-/

namespace DocumentSearch

/-- How many results a query wants. -/
inductive Cardinality where
  | all
  /-- Exactly one, or at most one if a default may stand for none. -/
  | single (orDefault : Bool)
  /-- The first one, or a default if there may be none. -/
  | first (orDefault : Bool)
deriving DecidableEq, Repr

private def boolText (b : Bool) : String := if b then "true" else "false"

/-- The text of a cardinality. -/
def Cardinality.inspect : Cardinality → String
  | all => "All"
  | single orDefault => Text.recordText "Single" [("or_default", boolText orDefault)]
  | first orDefault => Text.recordText "First" [("or_default", boolText orDefault)]

/-- Why the number of results is not the one wanted. -/
inductive CardinalityError where
  | multipleResults
  | noResults
deriving DecidableEq, Repr

/-- The message for a wrong number of results. -/
def CardinalityError.message : CardinalityError → String
  | multipleResults => "Sequence contains more than one element"
  | noResults => "Sequence contains no elements"

/-- The results of a query. -/
inductive Results where
  | many (vs : List Value)
  | one (v : Value)

/-- The results as a list. A single null is no result. -/
def Results.toList : Results → List Value
  | many vs => vs
  | one .null => []
  | one v => [v]

namespace Cardinality

/-- What stands for a result that is not there. -/
def absent (orDefault : Bool) (default : α) : Except CardinalityError α :=
  if orDefault then .ok default else .error .noResults

/-- The only item. -/
def onlyItem (items : List α) (orDefault : Bool) (default : α) : Except CardinalityError α :=
  match items with
  | [] => absent orDefault default
  | [a] => .ok a
  | _ => .error .multipleResults

/-- The first item. -/
def firstItem (items : List α) (orDefault : Bool) (default : α) : Except CardinalityError α :=
  match items with
  | [] => absent orDefault default
  | a :: _ => .ok a

/-- As many results as are wanted. -/
def select (cardinality : Cardinality) (items : List Value) (default : Value) : Except CardinalityError Results :=
  match cardinality with
  | all => .ok (.many items)
  | single orDefault => (onlyItem items orDefault default).map .one
  | first orDefault => (firstItem items orDefault default).map .one

end Cardinality

/-- Why there are no results. -/
inductive ResultError where
  | cardinality (e : CardinalityError)
  | cast (e : CastError)
  | evaluation (e : EvalError)
deriving DecidableEq, Repr

/-- The message for results that could not be made. -/
def ResultError.message : ResultError → String
  | cardinality e => e.message
  | cast e => s!"Unable to coerce returned value: {e.message}"
  | evaluation e => s!"Projection failed: {e.message}"

/-- How results are made from hits. -/
structure ResultReader where
  mapping : Mapping
  /-- The record type of the documents. -/
  source : String
  /-- Without a projection a result is the whole document. -/
  projection : Option Projection
  cardinality : Cardinality

namespace ResultReader

/-- The type of a result. -/
def element (reader : ResultReader) : ValueType :=
  match reader.projection with
  | some p => p.body.type
  | none => .object reader.source

/-- The result for a hit. -/
def result (reader : ResultReader) (hit : Hit) : Except ResultError Value :=
  match reader.projection with
  | some p => (p.apply reader.mapping hit.document).mapError .evaluation
  | none =>
    match hit.source with
    | some j => (reader.mapping.readValue j reader.element).mapError .cast
    | none => .ok reader.element.zero

/-- The results for a response. The first hit without a result decides the error. -/
def results (reader : ResultReader) (response : SearchResponse) : Except ResultError Results := do
  let items ← response.hits.hits.mapM reader.result
  (reader.cardinality.select items reader.element.zero).mapError .cardinality

end ResultReader

end DocumentSearch
