import DocumentSearch.Criteria.Wire
import DocumentSearch.Mapping.Basic

/-!
# Search requests

What is asked of the engine in one search, and the document that asks it.
-/

namespace DocumentSearch

/-- An order of results by one field. -/
structure SortOption where
  field : String
  ascending : Bool
  /-- The type to take for documents without the field. -/
  unmappedType : Option String := none

/-- A search. -/
structure SearchRequest where
  /-- The type of the documents. -/
  documentType : Option String := none
  query : Option Criteria := none
  /-- The fields to return. If there are none, documents are returned whole. -/
  fields : List String := []
  sort : List SortOption := []
  /-- How many results to leave out. -/
  start : Option Nat := none
  /-- How many results to return. -/
  size : Option Nat := none
  minScore : Option Float := none

/-- The document for an order of results. -/
def SortOption.toJson (sort : SortOption) : Json :=
  let unmapped := sort.unmappedType.toList.map fun type => ("unmapped_type", Json.string type)
  .tagged sort.field (.object (("order", .string (if sort.ascending then "asc" else "desc")) :: unmapped))

namespace SearchRequest

/-- The fields to ask for. The reserved ones are returned anyway. -/
def storedFields (request : SearchRequest) : List String := request.fields.filter fun field => !isReservedField field

/-- A member for items, if there are any. -/
def nonEmpty (name : String) (items : List Json) : Members Json :=
  if items.isEmpty then [] else [(name, .array items)]

/-- A member for what is given. -/
def given (name : String) (j : Option Json) : Members Json := j.toList.map (name, ·)

/-- The document that asks for a search. It holds what differs from the engine's own choice. -/
def body (mapping : Mapping) (request : SearchRequest) : Json :=
  .object
    (given "query" (request.query.map (·.toJson mapping.formatValue))
      ++ nonEmpty "fields" (request.storedFields.map .string)
      ++ nonEmpty "sort" (request.sort.map SortOption.toJson)
      ++ given "from" (request.start.map fun n => .integer n)
      ++ given "size" (request.size.map fun n => .integer n)
      ++ given "min_score" (request.minScore.map .ofFloat))

end SearchRequest

end DocumentSearch
