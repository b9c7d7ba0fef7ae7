import DocumentSearch.Members

/-!
# JSON documents

A number is either an integer or a double-precision number; `1` and `1.0` are different documents. Objects keep the
order of their members.

`Json.settled?` turns a document as it was written, where a name may be repeated, into one without repetitions.
-/

namespace DocumentSearch

/-- A JSON document. -/
inductive Json where
  | null
  | bool (b : Bool)
  | integer (n : Int)
  | float (x : Float)
  | string (s : String)
  | array (items : List Json)
  | object (members : List (String × Json))
deriving Inhabited

namespace Json

/-- The member of an object. -/
def get? (name : String) : Json → Option Json
  | object members => Members.get? members name
  | _ => none

/-- The text of a string. -/
def string? : Json → Option String
  | string s => some s
  | _ => none

/-- The members of an object. -/
def members? : Json → Option (Members Json)
  | object members => some members
  | _ => none

/-- The integer of an integer number. -/
def integer? : Json → Option Int
  | integer n => some n
  | _ => none

/-- The truth value. -/
def bool? : Json → Option Bool
  | bool b => some b
  | _ => none

/-- The items of an array. -/
def items? : Json → Option (List Json)
  | array items => some items
  | _ => none

/-- The number as a double-precision number; an integer is rounded to nearest. -/
def number? : Json → Option Float
  | integer n => some (Float.ofInt n)
  | float x => if x.isFinite then some x else none
  | _ => none

/-- The document of a double-precision number, which is null if the number is not finite. -/
def ofFloat (x : Float) : Json := if x.isFinite then float x else null

/-- What stands for a part that no document can hold: a number that is too large, a string with half a surrogate pair
in it, or an object with such a name. Numbers that are not finite all do. -/
def unreadable : Json := float (0 / 0)

mutual

/-- The document with one member for each name: the value given last, at the place of the first. There is none if a
part is unreadable. -/
def settled? : Json → Option Json
  | float x => if x.isFinite then some (float x) else none
  | array items => (settledItems? items).map array
  | object members => (settledMembers? members).map fun ms => object (Members.ofList ms)
  | j => some j

/-- `settled?` for each item. -/
def settledItems? : List Json → Option (List Json)
  | [] => some []
  | j :: rest => do return (← settled? j) :: (← settledItems? rest)

/-- `settled?` for the value of each member. -/
def settledMembers? : List (String × Json) → Option (List (String × Json))
  | [] => some []
  | (name, j) :: rest => do return (name, ← settled? j) :: (← settledMembers? rest)

end

end Json

end DocumentSearch
