import DocumentSearch.Mapping.Basic
import DocumentSearch.Text.Naming

/-!
# The document mapping

Fields follow the members: the field of a member of a member is the path of both names. Names may be written in camel
case and record types in the plural, and values are written by their kind.
-/

namespace DocumentSearch

/-- How names and values are written. -/
structure MappingOptions where
  /-- `first_name` is the field `firstName`. -/
  camelCaseFieldNames : Bool := true
  /-- `WebUser` is the document type `webUser`. -/
  camelCaseTypeNames : Bool := true
  /-- `webUser` is the document type `webUsers`. -/
  pluralTypeNames : Bool := true
  /-- Strings are sent in lower case. -/
  lowerCaseValues : Bool := false
  /-- The field that holds the document type, if searches are to be restricted by it. -/
  typeField : Option String := none

/-- Names and values as they are. -/
def MappingOptions.plain : MappingOptions where
  camelCaseFieldNames := false
  camelCaseTypeNames := false
  pluralTypeNames := false

/-- A mapping by the structure of documents. -/
structure DocumentMapping where
  options : MappingOptions := {}
  /-- The engine's types of fields. -/
  fieldTypes : Members String := []

namespace DocumentMapping

/-- The name of a member in a path. -/
def segment (mapping : DocumentMapping) (name : String) : String :=
  if mapping.options.camelCaseFieldNames then Text.camelCase name else name

/-- The names from the document down to the member that an expression reads. There is no path if the expression reads
anything else. -/
def path? (mapping : DocumentMapping) (source : String) : Expr → Option (List String)
  | .parameter p => if p.typeName = source then some [] else none
  | .convert e _ => mapping.path? source e
  | .member target m =>
    match m.owner with
    | .nullable => if m.name = "value" then mapping.path? source target else none
    | .named _ => (mapping.path? source target).map (· ++ [mapping.segment m.name])
    | _ => none
  | _ => none

/-- The field that an expression reads. The document as a whole is none. -/
def fieldName? (mapping : DocumentMapping) (source : String) (e : Expr) : Option String :=
  match mapping.path? source e with
  | none | some [] => none
  | some path => some (".".intercalate path)

mutual

/-- A value in a search. Instants have milliseconds. -/
def formatValue (options : MappingOptions) : Value → Json
  | .dateTime t => .string (t.text .millis "Z")
  | .string s => .string (if options.lowerCaseValues then Text.lower s else s)
  | .array items => .array (formatValues options items)
  | v => v.toJson

/-- `formatValue` for each item. -/
def formatValues (options : MappingOptions) : List Value → List Json
  | [] => []
  | v :: rest => formatValue options v :: formatValues options rest

end

/-- The name of a record type in the engine. -/
def documentType (options : MappingOptions) (source : String) : String :=
  let name := if options.camelCaseTypeNames then Text.camelCase source else source
  if options.pluralTypeNames then Text.plural name else name

/-- The criterion for the document type, if there is a field that holds it. -/
def typeSelection? (options : MappingOptions) (source : String) : Option Criteria := do
  let field ← options.typeField
  (Criteria.Checked.term field (.string (documentType options source)) none).toOption

/-- The mapping that follows the structure of documents. -/
def toMapping (mapping : DocumentMapping) : Mapping where
  fieldName? := mapping.fieldName?
  formatValue _ v := formatValue mapping.options v
  documentType? source := some (documentType mapping.options source)
  typeSelection? := typeSelection? mapping.options
  readValue := Value.ofJsonAs
  fieldType? := mapping.fieldTypes.get?

end DocumentMapping

end DocumentSearch
