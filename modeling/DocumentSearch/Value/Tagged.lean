import DocumentSearch.Json.Fields
import DocumentSearch.Time.Reader
import DocumentSearch.Value.Basic

/-!
# Tagged values

The tagged form of a value or type keeps its kind: `Value.toTagged` writes it and `Value.ofTagged?` reads it.
-/

namespace DocumentSearch

/-- The tagged form of a type. -/
def ValueType.toTagged : ValueType → Json
  | any => .string "Any"
  | bool => .string "Bool"
  | int32 => .string "I32"
  | int64 => .string "I64"
  | float => .string "F64"
  | string => .string "String"
  | dateTime => .string "DateTime"
  | nullable inner => .tagged "Nullable" inner.toTagged
  | sequence item => .tagged "Sequence" item.toTagged
  | object name => .tagged "Object" (.string name)

/-- The types without parts, by their tag. -/
private def simpleType? : String → Option ValueType
  | "Any" => some .any
  | "Bool" => some .bool
  | "I32" => some .int32
  | "I64" => some .int64
  | "F64" => some .float
  | "String" => some .string
  | "DateTime" => some .dateTime
  | _ => none

/-- The type with this tagged form. -/
def ValueType.ofTagged? : Json → Option ValueType
  | .string tag => simpleType? tag
  | .object [(tag, content)] =>
    if tag = "Nullable" then (ofTagged? content).map nullable
    else if tag = "Sequence" then (ofTagged? content).map sequence
    else if tag = "Object" then content.string?.map object
    else match content with
      | .null => simpleType? tag
      | _ => none
  | _ => none

namespace Value

mutual

/-- The tagged form of a value. -/
def toTagged : Value → Json
  | null => .string "Null"
  | bool b => .tagged "Bool" (.bool b)
  | int32 n => .tagged "I32" (.integer n.toInt)
  | int64 n => .tagged "I64" (.integer n.toInt)
  | float x => .tagged "F64" (.float x)
  | string s => .tagged "String" (.string s)
  | dateTime t => .tagged "DateTime" (.string t.zuluText)
  | array items => .tagged "Array" (.array (toTaggedItems items))
  | object members => .tagged "Object" (.object (toTaggedMembers members))

/-- `toTagged` for each item. -/
def toTaggedItems : List Value → List Json
  | [] => []
  | v :: rest => toTagged v :: toTaggedItems rest

/-- `toTagged` for the value of each member. -/
def toTaggedMembers : List (String × Value) → List (String × Json)
  | [] => []
  | (name, v) :: rest => (name, toTagged v) :: toTaggedMembers rest

end

private def int32OfTagged? (content : Json) : Option Value :=
  (content.integer?.filter fun n => Int32.minValue.toInt ≤ n && n ≤ Int32.maxValue.toInt).map
    fun n => int32 (Int32.ofInt n)

private def int64OfTagged? (content : Json) : Option Value :=
  (content.integer?.filter fun n => Int64.minValue.toInt ≤ n && n ≤ Int64.maxValue.toInt).map
    fun n => int64 (Int64.ofInt n)

/-- The values without parts, by tag and content. -/
private def scalarOfTagged? (tag : String) (content : Json) : Option Value :=
  match tag with
  | "Null" =>
    match content with
    | .null => some null
    | _ => none
  | "Bool" => content.bool?.map bool
  | "I32" => int32OfTagged? content
  | "I64" => int64OfTagged? content
  | "F64" => content.number?.map float
  | "String" => content.string?.map string
  | "DateTime" => do return dateTime (← Instant.ofText? (← content.string?))
  | _ => none

mutual

/-- The value with this tagged form. A float may be given as an integer, and an instant with any offset. -/
def ofTagged? : Json → Option Value
  | .string tag => if tag = "Null" then some null else none
  | .object [(tag, .array items)] => if tag = "Array" then (ofTaggedItems? items).map array else none
  | .object [(tag, .object members)] => if tag = "Object" then (ofTaggedMembers? members).map object else none
  | .object [(tag, content)] => scalarOfTagged? tag content
  | _ => none

/-- `ofTagged?` for each item. -/
def ofTaggedItems? : List Json → Option (List Value)
  | [] => some []
  | j :: rest => do return (← ofTagged? j) :: (← ofTaggedItems? rest)

/-- `ofTagged?` for the value of each member. -/
def ofTaggedMembers? : List (String × Json) → Option (List (String × Value))
  | [] => some []
  | (name, j) :: rest => do return (name, ← ofTagged? j) :: (← ofTaggedMembers? rest)

end

end Value

end DocumentSearch
