import DocumentSearch.Json.Basic

/-!
# Field types of an index

An engine tells the types of its fields index by index. `FieldTypes.ofIndexes` collects them by path. A property whose
path has a type already is passed over; the keyword form of another one replaces the type that its path had.
-/

namespace DocumentSearch.FieldTypes

/-- The path of a property within another. -/
def childPath (parent name : String) : String := if parent.isEmpty then name else parent ++ "." ++ name

/-- The type of a property. -/
def typeOf? (property : Members Json) : Option String :=
  ((property.get? "type").bind Json.string?).filter fun type => !type.isEmpty

/-- The type of the form of a property that is kept as a single keyword. -/
def keywordTypeOf? (property : Members Json) : Option String := do
  (← (← (← property.get? "fields").get? "keyword").get? "type").string?

/-- Adds the types of one property. -/
def addProperty (types : Members String) (path : String) (property : Members Json) : Members String :=
  let types :=
    match typeOf? property with
    | some type => types.put path type
    | none => types
  match keywordTypeOf? property with
  | some type => types.put (path ++ ".keyword") type
  | none => types

mutual

/-- Adds the types of properties and of the properties within them. A path that is known is left as it is, with all
that is within it. -/
def addProperties (parent : String) (types : Members String) : List (String × Json) → Members String
  | [] => types
  | (name, .object property) :: rest =>
    let path := childPath parent name
    if (types.get? path).isSome then
      addProperties parent types rest
    else
      addProperties parent (addNested path (addProperty types path property) property) rest
  | _ :: rest => addProperties parent types rest

/-- Adds the types of the properties within a property. -/
def addNested (path : String) (types : Members String) : List (String × Json) → Members String
  | [] => types
  | (name, .object properties) :: rest =>
    if name = "properties" then addProperties path types properties else addNested path types rest
  | (name, _) :: rest => if name = "properties" then types else addNested path types rest

end

/-- Adds the types of the properties of a document, if it has any. -/
def addAll (types : Members String) (document : Json) : Members String :=
  match document.get? "properties" with
  | some (.object properties) => addProperties "" types properties
  | _ => types

/-- Adds the types of one index. Its properties may be divided by document type. -/
def addIndex (types : Members String) (index : Json) : Members String :=
  match index.get? "mappings" with
  | none => types
  | some mappings =>
    match mappings.get? "properties" with
    | some _ => addAll types mappings
    | none => ((mappings.members?.getD []).map Prod.snd).foldl addAll types

/-- The types of all fields by path, from what the engine says of its indexes. -/
def ofIndexes (indexes : Json) : Members String :=
  ((indexes.members?.getD []).map Prod.snd).foldl addIndex []

end DocumentSearch.FieldTypes
