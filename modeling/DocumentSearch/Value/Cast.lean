import DocumentSearch.Decimal.Reader
import DocumentSearch.Text.Case
import DocumentSearch.Time.Reader
import DocumentSearch.Value.Text

/-!
# Casting values

`Value.cast` brings a value into a given shape or says why it cannot.

* Null goes into every shape that allows it.
* A sequence is cast item by item, and anything else becomes a sequence of one.
* A float becomes an integer without its fraction, if it lies within the range of the integers.
-/

namespace DocumentSearch

/-- Why a value cannot be brought into a shape. -/
inductive CastError where
  /-- No rule leads from the one type to the other. -/
  | incompatible (source target : ValueType)
  /-- The text does not have the form that the target asks for. -/
  | invalidFormat (text : String) (target : ValueType)
  /-- The number, given as text, is out of range. -/
  | overflow (text : String) (target : ValueType)
  /-- The target does not allow null. -/
  | nullNotAllowed (target : ValueType)
deriving DecidableEq, Repr

/-- The message of a failed cast. -/
def CastError.message : CastError → String
  | incompatible source target => s!"Cannot cast from {source.inspect} to {target.inspect}"
  | invalidFormat text target => s!"Invalid format '{text}' for type {target.inspect}"
  | overflow text target => s!"Numeric overflow: '{text}' cannot fit in {target.inspect}"
  | nullNotAllowed target => s!"Null cannot be cast to non-nullable type {target.inspect}"

namespace Value

/-- The integer of a float that lies between two bounds, without its fraction. -/
def integerWithin? (lo hi : Int) (x : Float) : Option Int :=
  let exact := Binary.ofFloat x
  if exact.between lo hi then exact.truncate? else none

/-- What was read from a text, or the error that it has the wrong form. -/
def orInvalid {α : Type} (text : String) (target : ValueType) (make : α → Value) :
    Option α → Except CastError Value
  | some a => .ok (make a)
  | none => .error (.invalidFormat text target)

/-- The integer that a text writes, if it lies between two bounds. -/
def integerIn? (lo hi : Int) (text : String) : Option Int :=
  (Decimal.integer? text).filter fun n => lo ≤ n && n ≤ hi

/-- The truth value that a word stands for, in any letter case. -/
def truthOf? (text : String) : Option Bool :=
  let word := Text.lower text
  if ["true", "1", "yes", "on"].contains word then some true
  else if ["false", "0", "no", "off"].contains word then some false
  else none

/-- The casts to a truth value. A number is true if it is not zero. -/
def castToBool : Value → Except CastError Value
  | bool b => .ok (bool b)
  | int32 n => .ok (bool (n != 0))
  | int64 n => .ok (bool (n != 0))
  | float x => .ok (bool (x != 0))
  | string s => orInvalid s .bool bool (truthOf? s)
  | null => .error (.nullNotAllowed .bool)
  | v => .error (.incompatible v.type .bool)

/-- The casts to a 32-bit integer. -/
def castToInt32 : Value → Except CastError Value
  | int32 n => .ok (int32 n)
  | int64 n =>
    if Int32.minValue.toInt ≤ n.toInt ∧ n.toInt ≤ Int32.maxValue.toInt then
      .ok (int32 (Int32.ofInt n.toInt))
    else
      .error (.overflow (toString n.toInt) .int32)
  | float x =>
    match integerWithin? Int32.minValue.toInt Int32.maxValue.toInt x with
    | some n => .ok (int32 (Int32.ofInt n))
    | none => .error (.overflow (Decimal.Layout.plain.text x) .int32)
  | string s =>
    orInvalid s .int32 (fun n => int32 (Int32.ofInt n))
      (integerIn? Int32.minValue.toInt Int32.maxValue.toInt s)
  | null => .error (.nullNotAllowed .int32)
  | v => .error (.incompatible v.type .int32)

/-- The casts to a 64-bit integer. The float 2^63, the least one out of range, still goes to the greatest integer. -/
def castToInt64 : Value → Except CastError Value
  | int32 n => .ok (int64 n.toInt64)
  | int64 n => .ok (int64 n)
  | float x =>
    match integerWithin? Int64.minValue.toInt (Int64.maxValue.toInt + 1) x with
    | some n => .ok (int64 (Int64.ofIntClamp n))
    | none => .error (.overflow (Decimal.Layout.plain.text x) .int64)
  | string s =>
    orInvalid s .int64 (fun n => int64 (Int64.ofInt n))
      (integerIn? Int64.minValue.toInt Int64.maxValue.toInt s)
  | null => .error (.nullNotAllowed .int64)
  | v => .error (.incompatible v.type .int64)

/-- The casts to a float; a large integer is rounded to nearest. -/
def castToFloat : Value → Except CastError Value
  | int32 n => .ok (float (Float.ofInt n.toInt))
  | int64 n => .ok (float (Float.ofInt n.toInt))
  | float x => .ok (float x)
  | string s => orInvalid s .float float (Decimal.float? s)
  | null => .error (.nullNotAllowed .float)
  | v => .error (.incompatible v.type .float)

/-- The casts to a string. -/
def castToString : Value → Except CastError Value
  | null => .ok null
  | bool b => .ok (string (boolText b))
  | int32 n => .ok (string (toString n.toInt))
  | int64 n => .ok (string (toString n.toInt))
  | float x => .ok (string (Decimal.Layout.plain.text x))
  | string s => .ok (string s)
  | dateTime t => .ok (string t.offsetText)
  | v => .error (.incompatible v.type .string)

/-- The casts to an instant. A 64-bit integer counts milliseconds. -/
def castToDateTime : Value → Except CastError Value
  | dateTime t => .ok (dateTime t)
  | int64 n =>
    match Instant.ofMillis? n.toInt with
    | some t => .ok (dateTime t)
    | none => .error (.overflow (toString n.toInt) .dateTime)
  | string s => orInvalid s .dateTime dateTime (Instant.ofRfc3339? s)
  | null => .error (.nullNotAllowed .dateTime)
  | v => .error (.incompatible v.type .dateTime)

/-- The casts to an object. Its record type is not checked. -/
def castToObject (name : String) : Value → Except CastError Value
  | null => .ok null
  | object members => .ok (object members)
  | v => .error (.incompatible v.type (.object name))

/-- The value in the shape of a type. -/
def cast (v : Value) : ValueType → Except CastError Value
  | .any => .ok v
  | .bool => castToBool v
  | .int32 => castToInt32 v
  | .int64 => castToInt64 v
  | .float => castToFloat v
  | .string => castToString v
  | .dateTime => castToDateTime v
  | .object name => castToObject name v
  | .nullable inner => if v.isNull then .ok null else cast v inner
  | .sequence item =>
    match v with
    | null => .ok null
    | array items => (items.mapM fun v => cast v item).map array
    | v => (cast v item).map fun v => array [v]

end Value

end DocumentSearch
