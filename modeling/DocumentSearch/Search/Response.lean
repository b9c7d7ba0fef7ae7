import DocumentSearch.Document
import DocumentSearch.Json.Fields
import DocumentSearch.Json.Reader

/-!
# Search responses

The parts of an engine's answer that results are made from.

A response is read from the document as it was written: a member that is not known is passed over, whatever it holds,
and one that is known must not be repeated. A record may also be given as the array of its fields in order.
-/

namespace DocumentSearch

/-- A document that was found. -/
structure Hit where
  index : Option String := none
  id : Option String := none
  score : Option Float := none
  source : Option Json := none
  fields : Option (Members Json) := none

/-- How many documents there are in all. -/
structure Total where
  value : Nat := 0
  /-- Whether the value is exact or a bound. -/
  relation : Option String := none

/-- The documents that were found. -/
structure Hits where
  total : Total := {}
  maxScore : Option Float := none
  hits : List Hit := []

/-- An engine's answer to a search. -/
structure SearchResponse where
  /-- The time that the search took, in milliseconds. -/
  took : Nat := 0
  timedOut : Bool := false
  hits : Hits := {}

/-! ### Reading -/

/-- The total of a response: a number, or an object that holds one. -/
def Total.ofJson? (j : Json) : Option Total := do
  match ← j.settled? *> some j with
  | .integer n => return { value := ← (Json.integer n).natural? }
  | .object members =>
    match ← (Json.object members).recordFields? ["value", "relation"] with
    | [some value, relation] =>
      return { value := ← value.natural?, relation := ← Json.orNone? Json.string? relation }
    | _ => failure
  | _ => failure

/-- A hit of a response. -/
def Hit.ofJson? (j : Json) : Option Hit := do
  match ← j.recordFields? ["_index", "_id", "_score", "_source", "fields"] with
  | [index, id, score, source, fields] =>
    return { index := ← Json.orNone? Json.string? index
             id := ← Json.orNone? Json.string? id
             score := ← Json.orNone? Json.number? score
             source := ← Json.orNone? Json.settled? source
             fields := ← Json.orNone? (fun j => j.settled?.bind Json.members?) fields }
  | _ => failure

/-- The hits of a response. -/
def Hits.ofJson? (j : Json) : Option Hits := do
  match ← j.recordFields? ["total", "max_score", "hits"] with
  | [total, maxScore, hits] =>
    return { total := ← Json.orDefault? Total.ofJson? {} total
             maxScore := ← Json.orNone? Json.number? maxScore
             hits := ← Json.orDefault? (fun j => j.items?.bind fun items => items.mapM Hit.ofJson?) [] hits }
  | _ => failure

namespace SearchResponse

/-- The response that a document describes. -/
def ofJson? (j : Json) : Option SearchResponse := do
  match ← j.recordFields? ["took", "timed_out", "hits"] with
  | [took, timedOut, hits] =>
    return { took := ← Json.orDefault? Json.natural? 0 took
             timedOut := ← Json.orDefault? Json.bool? false timedOut
             hits := ← Json.orDefault? Hits.ofJson? {} hits }
  | _ => failure

/-- The response of a text. -/
def ofText? (text : String) : Option SearchResponse := (Json.ofWritten? text).bind ofJson?

end SearchResponse

/-! ### Writing -/

private def textOrNull : Option String → Json
  | some s => .string s
  | none => .null

private def numberOrNull : Option Float → Json
  | some x => .ofFloat x
  | none => .null

/-- The document of a total. -/
def Total.toJson (total : Total) : Json :=
  .object [("value", .integer total.value), ("relation", textOrNull total.relation)]

/-- The document of a hit. -/
def Hit.toJson (hit : Hit) : Json :=
  .object
    [("_index", textOrNull hit.index), ("_id", textOrNull hit.id), ("_score", numberOrNull hit.score),
     ("_source", hit.source.getD .null), ("fields", (hit.fields.map Json.object).getD .null)]

/-- The document of hits. -/
def Hits.toJson (hits : Hits) : Json :=
  .object
    [("total", hits.total.toJson), ("max_score", numberOrNull hits.maxScore),
     ("hits", .array (hits.hits.map Hit.toJson))]

/-- The document of a response. -/
def SearchResponse.toJson (response : SearchResponse) : Json :=
  .object
    [("took", .integer response.took), ("timed_out", .bool response.timedOut), ("hits", response.hits.toJson)]

/-! ### What results are made from -/

/-- The fields of a hit, the reserved ones included. -/
def Hit.allFields (hit : Hit) : Members Json :=
  let fields := hit.fields.getD []
  let fields := match hit.id with
    | some id => Members.put fields "_id" (.string id)
    | none => fields
  match hit.score with
  | some score => Members.put fields "_score" (.ofFloat score)
  | none => fields

/-- The document of a hit. -/
def Hit.document (hit : Hit) : Document := { fields := some hit.allFields, source := hit.source }

/-- How many documents were found, in words. -/
def SearchResponse.summary (response : SearchResponse) : String :=
  match response.hits.hits.length with
  | 0 => "nothing"
  | n => s!"{n} hits"

end DocumentSearch
