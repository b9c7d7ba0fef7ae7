import DocumentSearch.Criteria.Basic
import DocumentSearch.Value.Json

/-!
# Mappings

A mapping says how record types appear in the search engine: what their fields are called, how values are written and
how documents are read.

Every document has the reserved fields besides its own. `Mapping.withReserved` names these by itself, so that no
mapping needs to know them.
-/

namespace DocumentSearch

/-- The way in which record types appear in the engine. -/
structure Mapping where
  /-- The engine's name for the member that an expression reads from a document of the given record type. -/
  fieldName? (source : String) (e : Expr) : Option String
  /-- A value in a search, with the member that it is compared with. -/
  formatValue (member : Option Member) (v : Value) : Json
  /-- The engine's name for a record type. -/
  documentType? (source : String) : Option String
  /-- The criterion that holds of documents of a record type only. -/
  typeSelection? (source : String) : Option Criteria
  /-- A document, or a part of one, as a value of a type. -/
  readValue (document : Json) (type : ValueType) : Except CastError Value
  /-- The engine's type of a field. -/
  fieldType? (field : String) : Option String

/-- The fields that every document has besides its own. -/
def reservedFields : List String := ["_id", "_score"]

/-- The name of a reserved field. -/
def isReservedField (name : String) : Bool := reservedFields.contains name

namespace Mapping

/-- The engine's name for a reserved member. -/
def reservedName (name : String) : String := "_" ++ Text.lower name

/-- The mapping with names for reserved members. -/
def withReserved (mapping : Mapping) : Mapping :=
  { mapping with
    fieldName? source e :=
      match e.member? with
      | some (_, ⟨name, .reserved, _⟩) => some (reservedName name)
      | _ => mapping.fieldName? source e }

/-- The mapping with each field name behind a fixed beginning. Static members are named as they are, and the engine's
field types are not known. -/
def withLeading (leading : String) (mapping : Mapping) : Mapping :=
  { mapping with
    fieldName? source e :=
      match e.core with
      | .staticMember m => some (leading ++ m.name)
      | _ => (mapping.fieldName? source e).map (leading ++ ·)
    fieldType? _ := none }

end Mapping

end DocumentSearch
