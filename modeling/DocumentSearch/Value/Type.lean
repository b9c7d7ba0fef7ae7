import DocumentSearch.Text.Structure

/-!
# Value types

The shape that a value is expected to have.
-/

namespace DocumentSearch

/-- The shape of a value. -/
inductive ValueType where
  | any
  | bool
  | int32
  | int64
  | float
  | string
  | dateTime
  | nullable (inner : ValueType)
  | sequence (item : ValueType)
  /-- A record type by its name. -/
  | object (name : String)
deriving DecidableEq, Repr, Inhabited

namespace ValueType

/-- Null has this shape. -/
def isNullable : ValueType → Bool
  | bool | int32 | int64 | float | dateTime => false
  | any | string | nullable _ | sequence _ | object _ => true

/-- A sequence of whatever items. -/
def isSequence : ValueType → Bool
  | sequence _ => true
  | _ => false

/-- The name of the record type that this is, or that it makes nullable. -/
def recordName? : ValueType → Option String
  | object name => some name
  | nullable inner => inner.recordName?
  | _ => none

/-- The type without the permission to be null. -/
def withoutNull : ValueType → ValueType
  | nullable inner => inner
  | ty => ty

/-- The text of a type in messages. -/
def inspect : ValueType → String
  | any => "Any"
  | bool => "Bool"
  | int32 => "I32"
  | int64 => "I64"
  | float => "F64"
  | string => "String"
  | dateTime => "DateTime"
  | nullable inner => Text.callText "Nullable" [inner.inspect]
  | sequence item => Text.callText "Sequence" [item.inspect]
  | object name => Text.callText "Object" [Text.quoted name]

end ValueType

end DocumentSearch
