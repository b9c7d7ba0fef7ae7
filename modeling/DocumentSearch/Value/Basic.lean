import DocumentSearch.Members
import DocumentSearch.Time.Instant
import DocumentSearch.Value.Type

/-!
# Values

A value is what an expression holds as a constant, what a search compares with, and what a result is made of.

* `Value.type` is the type that a value shows by itself.
* `ValueType.zero` is the value taken where nothing was found.
-/

namespace DocumentSearch

/-- A value. The members of an object keep their order. -/
inductive Value where
  | null
  | bool (b : Bool)
  | int32 (n : Int32)
  | int64 (n : Int64)
  | float (x : Float)
  | string (s : String)
  | dateTime (t : Instant)
  | array (items : List Value)
  | object (members : List (String × Value))
deriving Inhabited

namespace Value

/-- The type of a value as far as the value tells: the items of an array and the record type of an object are not
part of it. -/
def type : Value → ValueType
  | null => .any
  | bool _ => .bool
  | int32 _ => .int32
  | int64 _ => .int64
  | float _ => .float
  | string _ => .string
  | dateTime _ => .dateTime
  | array _ => .sequence .any
  | object _ => .object ""

/-- The value is null. -/
def isNull : Value → Bool
  | null => true
  | _ => false

/-- The truth value. -/
def bool? : Value → Option Bool
  | bool b => some b
  | _ => none

/-- The text of a string. -/
def string? : Value → Option String
  | string s => some s
  | _ => none

/-- The integer of either width. -/
def integer? : Value → Option Int64
  | int32 n => some n.toInt64
  | int64 n => some n
  | _ => none

/-- The number of any kind, rounded to double precision. -/
def number? : Value → Option Float
  | int32 n => some (Float.ofInt n.toInt)
  | int64 n => some (Float.ofInt n.toInt)
  | float x => some x
  | _ => none

/-- The items of an array. -/
def items? : Value → Option (List Value)
  | array items => some items
  | _ => none

/-- The member of an object. -/
def get? (name : String) : Value → Option Value
  | object members => Members.get? members name
  | _ => none

mutual

/-- In every object, and within it, no name has two members. -/
def Distinct : Value → Prop
  | array items => DistinctItems items
  | object members => Members.Distinct members ∧ DistinctMembers members
  | _ => True

/-- `Distinct` for each item. -/
def DistinctItems : List Value → Prop
  | [] => True
  | v :: rest => Distinct v ∧ DistinctItems rest

/-- `Distinct` for the value of each member. -/
def DistinctMembers : List (String × Value) → Prop
  | [] => True
  | (_, v) :: rest => Distinct v ∧ DistinctMembers rest

end

end Value

/-- The value that stands for nothing: zero, false or the start of 1970 where null is not allowed, else null. -/
def ValueType.zero : ValueType → Value
  | bool => .bool false
  | int32 => .int32 0
  | int64 => .int64 0
  | float => .float 0
  | dateTime => .dateTime Instant.epoch
  | any | string | nullable _ | sequence _ | object _ => .null

end DocumentSearch
