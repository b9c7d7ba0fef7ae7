import DocumentSearch.Criteria.Basic
import DocumentSearch.Json.Fields

/-!
# Criteria in a search request

`Criteria.toJson` writes a criterion in the query language of the engine. How a value is written is not decided here:
the caller gives a function for it.
-/

namespace DocumentSearch.Criteria

/-- The lists of a boolean query that are not empty. -/
def occurrences (must should mustNot : List Json) : Members Json :=
  ([("must", must), ("should", should), ("must_not", mustNot)].filter fun e => !e.2.isEmpty).map
    fun (name, clauses) => (name, .array clauses)

/-- The request that at least one of the optional clauses holds. -/
def atLeastOne : Members Json := [("minimum_should_match", .integer 1)]

/-- A boolean query. An engine takes a single optional clause as it should without being told. -/
def boolQuery (must should mustNot : List Json) : Json :=
  let demand := if should.length > 1 then atLeastOne else []
  .tagged "bool" (.object (occurrences must should mustNot ++ demand))

/-- A query about one field. -/
def fieldQuery (kind : LeafKind) (field : String) (content : Json) : Json :=
  .tagged kind.wireName (.tagged field content)

/-- A query for one of several values. -/
def termsQuery (field : String) (values : List Json) (execution : Option ExecutionMode) : Json :=
  let body : Members Json := [(field, .array values)]
  .tagged (LeafKind.wireName .terms) <| .object <|
    match execution with
    | some mode => body.put "execution" (.string mode.wireName)
    | none => body

mutual

/-- The query for a criterion. Of several terms a single one is written as such, and of several clauses too. -/
def toJson (format : Option Member → Value → Json) : Criteria → Json
  | term field value member => fieldQuery .term field (format member value)
  | terms field [value] _ member => fieldQuery .term field (format member value)
  | terms field values execution member => termsQuery field (values.map (format member)) execution
  | range field comparison value member =>
    fieldQuery .range field (.tagged comparison.wireName (format member value))
  | present field => fieldQuery .present "field" (.string field)
  | missing field => fieldQuery .missing "field" (.string field)
  | pattern kind field text => fieldQuery (.pattern kind) field (.string text)
  | analyzed field value member => fieldQuery .analyzed field (format member value)
  | bool must should mustNot => boolQuery (allToJson format must) (allToJson format should) (allToJson format mustNot)
  | negation c => boolQuery [] [] [toJson format c]
  | disjunction [c] => toJson format c
  | disjunction clauses =>
    .tagged "bool" (.object (("should", .array (allToJson format clauses)) :: atLeastOne))
  | matchAll => .tagged "match_all" (.object [])

/-- The queries for criteria. -/
def allToJson (format : Option Member → Value → Json) : List Criteria → List Json
  | [] => []
  | c :: rest => toJson format c :: allToJson format rest

end

end DocumentSearch.Criteria
