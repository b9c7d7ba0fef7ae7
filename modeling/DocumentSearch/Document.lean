import DocumentSearch.Expr.Eval
import DocumentSearch.Mapping.Basic

/-!
# Found documents

Of a document the engine returns single fields, each by its name, or the whole source. `Document.scope` gives values
to expressions from both.
-/

namespace DocumentSearch

/-- What the engine returned of a document. -/
structure Document where
  /-- The values of single fields. -/
  fields : Option (Members Json) := none
  /-- The document as it was stored. -/
  source : Option Json := none

namespace Document

/-- A single value as a value of a type; null is the zero of the type. -/
def singleValue (mapping : Mapping) (type : ValueType) : Json → Except CastError Value
  | .null => .ok type.zero
  | j => mapping.readValue j type

/-- The value of a field as a value of a type. Engines return every field as an array, of which all but sequences take
the first item. Where there is no value, it is the zero of the type. -/
def fieldValue (mapping : Mapping) (fields : Option (Members Json)) (key : String) (type : ValueType) :
    Except CastError Value :=
  match fields.bind (·.get? key) with
  | none => .ok type.zero
  | some j =>
    if type.isSequence then
      mapping.readValue j type
    else
      match j with
      | .array [] => .ok type.zero
      | .array (first :: _) => singleValue mapping type first
      | j => singleValue mapping type j

/-- The scope in which lookups read the fields of a document and every parameter is its source. -/
def scope (mapping : Mapping) (document : Document) : Scope where
  parameter p :=
    match document.source with
    | some source => (mapping.readValue source (.object p.typeName)).mapError .cast
    | none => .error (.unboundParameter p.name)
  lookup key type := (fieldValue mapping document.fields key type).mapError .cast

end Document

end DocumentSearch
