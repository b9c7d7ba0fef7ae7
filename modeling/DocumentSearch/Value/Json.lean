import DocumentSearch.Json.Basic
import DocumentSearch.Value.Cast

/-!
# Values and JSON

* `Value.ofJson` reads a document without a type: an integer of at most 64 bits with sign stays an integer, any other
  number becomes a float.
* `Value.ofLiteral?` reads a literal, whose numbers take the narrowest kind.
* `Value.ofJsonAs` reads a document in the shape of a type.
* `Value.toJson` writes a value; instants become strings and floats that are not finite become null.
-/

namespace DocumentSearch.Value

/-- An integer as a value: one of more than 64 bits becomes a float. -/
def ofJsonInteger (n : Int) : Value :=
  if Int64.minValue.toInt ≤ n ∧ n ≤ Int64.maxValue.toInt then int64 (Int64.ofInt n) else float (Float.ofInt n)

mutual

/-- The value that a document shows by itself. -/
def ofJson : Json → Value
  | .null => null
  | .bool b => bool b
  | .integer n => ofJsonInteger n
  | .float x => float x
  | .string s => string s
  | .array items => array (ofJsonItems items)
  | .object members => object (ofJsonMembers members)

/-- `ofJson` for each item. -/
def ofJsonItems : List Json → List Value
  | [] => []
  | j :: rest => ofJson j :: ofJsonItems rest

/-- `ofJson` for the value of each member. -/
def ofJsonMembers : List (String × Json) → List (String × Value)
  | [] => []
  | (name, j) :: rest => (name, ofJson j) :: ofJsonMembers rest

end

/-- An integer literal, of 32 bits if they hold it. -/
def ofSmallInteger? (j : Json) : Option Value :=
  (j.integer?.filter fun n => Int32.minValue.toInt ≤ n && n ≤ Int32.maxValue.toInt).map
    fun n => int32 (Int32.ofInt n)

/-- The value that a literal stands for, numbers in the narrowest kind. A list holds either 32-bit integers or strings;
other lists and objects are no literals. -/
def ofLiteral? : Json → Option Value
  | .object _ => none
  | .array items =>
    ((items.mapM ofSmallInteger?).orElse fun _ => items.mapM fun j => j.string?.map string).map array
  | j => some ((ofSmallInteger? j).getD (ofJson j))

/-- A document in the shape of a type that is neither a sequence nor nullable. Arrays have none of these shapes, and
objects only that of an object and the one without restriction. -/
def ofJsonAsPlain (j : Json) (target : ValueType) : Except CastError Value :=
  match j, target with
  | .object _, .object _ | .object _, .any => .ok (ofJson j)
  | .object _, _ | .array _, _ => .error (.incompatible (ofJson j).type target)
  | _, _ => (ofJson j).cast target

/-- The value of a document in the shape of a type. -/
def ofJsonAs (j : Json) : ValueType → Except CastError Value
  | .sequence item =>
    match j with
    | .null => .ok null
    | .array items => (items.mapM fun j => ofJsonAs j item).map array
    | j => (ofJsonAs j item).map fun v => array [v]
  | .nullable inner =>
    match j with
    | .null => .ok null
    | j => ofJsonAs j inner
  | target => ofJsonAsPlain j target

mutual

/-- The document of a value. -/
def toJson : Value → Json
  | null => .null
  | bool b => .bool b
  | int32 n => .integer n.toInt
  | int64 n => .integer n.toInt
  | float x => .ofFloat x
  | string s => .string s
  | dateTime t => .string t.offsetText
  | array items => .array (toJsonItems items)
  | object members => .object (toJsonMembers members)

/-- `toJson` for each item. -/
def toJsonItems : List Value → List Json
  | [] => []
  | v :: rest => toJson v :: toJsonItems rest

/-- `toJson` for the value of each member. -/
def toJsonMembers : List (String × Value) → List (String × Json)
  | [] => []
  | (name, v) :: rest => (name, toJson v) :: toJsonMembers rest

end

end DocumentSearch.Value
