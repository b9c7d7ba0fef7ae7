import DocumentSearch.Expr.Builtin
import DocumentSearch.Expr.Text
import DocumentSearch.Text.Blank
import DocumentSearch.Value.Cast
import DocumentSearch.Value.Compare

/-!
# Evaluation

`Expr.eval` computes the value of an expression in a `Scope`, which gives values to parameters and lookups.

* Operands are evaluated from left to right and the first error is the result. The right operand of `and` and `or`
  is left out where the left one decides.
* Arithmetic on null is null; an order comparison with null is false.
* Two 32-bit integers give a 32-bit integer or an overflow, other integers wrap around at 64 bits.
-/

namespace DocumentSearch

/-- What an operation asks of a value. -/
inductive Expected where
  | bool
  | string
  | object
  | number
  | sequence
  | comparable
deriving DecidableEq, Repr

/-- The words for what was asked. -/
def Expected.text : Expected → String
  | bool => "bool"
  | string => "string"
  | object => "object"
  | number => "number"
  | sequence => "sequence"
  | comparable => "comparable values"

/-- Why an expression has no value. -/
inductive EvalError where
  | unboundParameter (name : String)
  | unboundLookup (key : String)
  | unsupportedMethod (m : Method)
  /-- A static member has a value in a search only. -/
  | staticMember (name : String)
  | lambda
  | unsupportedMember (name : String)
  | nullReference (name : String)
  | missingMember (name : String)
  | mismatch (expected : Expected) (actual : ValueType)
  | divisionByZero
  | cast (e : CastError)
deriving DecidableEq, Repr

/-- The message of a failed evaluation. -/
def EvalError.message : EvalError → String
  | unboundParameter name => s!"Parameter '{name}' is not bound in this scope"
  | unboundLookup key => s!"No document is bound for lookup of '{key}'"
  | unsupportedMethod m => s!"Unsupported method: {m.path}"
  | staticMember name => s!"Expression cannot be evaluated locally: static member '{name}' has no local value"
  | lambda => "Expression cannot be evaluated locally: lambda"
  | unsupportedMember name => s!"Expression cannot be evaluated locally: member '{name}'"
  | nullReference name => s!"Null reference while accessing '{name}'"
  | missingMember name => s!"Object has no member '{name}'"
  | mismatch expected actual => s!"Type mismatch: expected {expected.text}, got {actual.inspect}"
  | divisionByZero => "Division by zero"
  | cast e => e.message

/-- Values for the free parts of an expression. -/
structure Scope where
  parameter : Parameter → Except EvalError Value
  lookup : String → ValueType → Except EvalError Value

/-- The scope in which nothing has a value. -/
def Scope.empty : Scope where
  parameter p := .error (.unboundParameter p.name)
  lookup key _ := .error (.unboundLookup key)

namespace Value

/-- The truth value, which must be one. -/
def truth (v : Value) : Except EvalError Bool :=
  match v.bool? with
  | some b => .ok b
  | none => .error (.mismatch .bool v.type)

/-- The text of a string, which it must be. -/
def characters (v : Value) : Except EvalError String :=
  match v.string? with
  | some s => .ok s
  | none => .error (.mismatch .string v.type)

/-- A cast as a step of an evaluation. -/
def converted (v : Value) (type : ValueType) : Except EvalError Value := (v.cast type).mapError .cast

/-! ### Members and operators -/

/-- The member of a value. -/
def memberValue (target : Value) (m : Member) : Except EvalError Value :=
  match m.owner with
  | .nullable =>
    if m.name = "has_value" then .ok (bool !target.isNull)
    else if m.name = "value" then
      if target.isNull then .error (.nullReference m.name) else .ok target
    else .error (.unsupportedMember m.name)
  | .string =>
    if m.name = "len" then
      if target.isNull then .error (.nullReference m.name)
      else target.characters.map fun s => int32 (Int32.ofNat s.length)
    else .error (.unsupportedMember m.name)
  | .named _ =>
    match target with
    | null => .error (.nullReference m.name)
    | object members =>
      match Members.get? members m.name with
      | some v => .ok v
      | none => .error (.missingMember m.name)
    | v => .error (.mismatch .object v.type)
  | .reserved => .error (.unsupportedMember m.name)

/-- The value of an operator with one operand. -/
def applyUnary (operator : UnaryOperator) (v : Value) : Except EvalError Value :=
  match operator, v with
  | _, null => .ok null
  | .not, bool b => .ok (bool !b)
  | .negate, int32 n => .ok (int32 (-n))
  | .negate, int64 n => .ok (int64 (-n))
  | .negate, float x => .ok (float (-x))
  | .not, v => .error (.mismatch .bool v.type)
  | .negate, v => .error (.mismatch .number v.type)

/-- An order comparison. With null it never holds. -/
def applyComparison (comparison : Comparison) (a b : Value) : Except EvalError Value :=
  if a.isNull || b.isNull then
    .ok (bool false)
  else
    match a.compare? b with
    | some o => .ok (bool (comparison.holds o))
    | none => .error (.mismatch .comparable b.type)

/-- The error for a quotient that 64 bits cannot hold. -/
def noQuotient (operation : Arithmetic) (m n : Int64) : EvalError :=
  .cast (.overflow s!"{m.toInt} {operation.name} {n.toInt}" .int64)

/-- Arithmetic on 64-bit integers. Sums and products wrap around; the least integer has no quotient by minus one. -/
def applyIntegers (operation : Arithmetic) (m n : Int64) : Except EvalError Int64 :=
  match operation with
  | .add => .ok (m + n)
  | .subtract => .ok (m - n)
  | .multiply => .ok (m * n)
  | .divide =>
    if n = 0 then .error .divisionByZero
    else if m = Int64.minValue ∧ n = -1 then .error (noQuotient operation m n)
    else .ok (m / n)
  | .modulo =>
    if n = 0 then .error .divisionByZero
    else if m = Int64.minValue ∧ n = -1 then .error (noQuotient operation m n)
    else .ok (m % n)

/-- Arithmetic in double precision. The remainder has the sign of the dividend. -/
def applyFloats (operation : Arithmetic) (x y : Float) : Float :=
  match operation with
  | .add => x + y
  | .subtract => x - y
  | .multiply => x * y
  | .divide => x / y
  | .modulo => ((Binary.ofFloat x).remainder (Binary.ofFloat y)).toFloat

/-- Arithmetic on numbers of any kind. -/
def applyNumbers (operation : Arithmetic) (a b : Value) : Except EvalError Value :=
  match a.integer?, b.integer? with
  | some m, some n => do
    let result ← applyIntegers operation m n
    match a, b with
    | int32 _, int32 _ => (int64 result).converted .int32
    | _, _ => .ok (int64 result)
  | _, _ =>
    match a.number?, b.number? with
    | some x, some y => .ok (float (applyFloats operation x y))
    | none, _ => .error (.mismatch .number a.type)
    | _, none => .error (.mismatch .number b.type)

/-- The text of a value as a part of a longer text. -/
def part : Value → String
  | null => ""
  | v => v.text

/-- The value is a string. -/
def isString : Value → Bool
  | string _ => true
  | _ => false

/-- Arithmetic; a sum in which a string takes part joins texts. -/
def applyArithmetic (operation : Arithmetic) (a b : Value) : Except EvalError Value :=
  if operation = .add ∧ (a.isString || b.isString) then
    .ok (string (a.part ++ b.part))
  else if a.isNull || b.isNull then
    .ok null
  else
    applyNumbers operation a b

/-! ### Methods -/

/-- The number of items. -/
def countOf (v : Value) : Except EvalError Value :=
  match v.items? with
  | some items => .ok (int32 (Int32.ofNat items.length))
  | none => .error (.mismatch .sequence v.type)

/-- A sequence has an item that is loosely equal to the given one. -/
def hasItem (v item : Value) : Except EvalError Value :=
  match v with
  | null => .error (.nullReference "contains")
  | array items => .ok (bool (items.any (looselyEqual · item)))
  | v => .error (.mismatch .sequence v.type)

/-- A test of two strings. -/
def stringTest (test : String → String → Bool) (s t : Value) : Except EvalError Value := do
  let s ← s.characters
  let t ← t.characters
  return bool (test s t)

/-- Equality of strings, in a mode if one is given. No string equals null. -/
def equalStrings (s t : Value) (mode : Option Value) : Except EvalError Value :=
  if t.isNull then
    .ok (bool false)
  else if mode.any ignoresCase then
    stringTest (fun s t => Text.lower s == Text.lower t) s t
  else
    stringTest (fun s t => s == t) s t

/-- The distance from zero; that of a least integer is the integer itself. -/
def absolute : Value → Except EvalError Value
  | int32 n => .ok (int32 (if n < 0 then -n else n))
  | int64 n => .ok (int64 (if n < 0 then -n else n))
  | float x => .ok (float x.abs)
  | v => .error (.mismatch .number v.type)

/-- One of two values, by their order. -/
def extreme (keepsLeft : Ordering → Bool) (a b : Value) : Except EvalError Value :=
  match a.compare? b with
  | some o => .ok (if keepsLeft o then a else b)
  | none => .error (.mismatch .number b.type)

/-- The value of a method call. -/
def invoke (m : Method) (target : Option Value) (args : List Value) : Except EvalError Value :=
  if target.any isNull then
    .error (.nullReference m.name)
  else
    match m.builtin?, target, args with
    | some .lower, some s, [] => s.characters.map fun s => string (Text.lower s)
    | some .upper, some s, [] => s.characters.map fun s => string (Text.upper s)
    | some .trim, some s, [] => s.characters.map fun s => string (Text.trim s)
    | some .startsWith, some s, [t] => stringTest Text.startsWith s t
    | some .endsWith, some s, [t] => stringTest Text.endsWith s t
    | some .contains, some s, [t] => stringTest Text.contains s t
    | some .equalsString, some s, [t] => equalStrings s t none
    | some .equalsString, some s, [t, mode] => equalStrings s t (some mode)
    | some .concat, none, parts => .ok (string (String.join (parts.map part)))
    | some .isNullOrEmpty, none, [null] => .ok (bool true)
    | some .isNullOrEmpty, none, [s] => s.characters.map fun s => bool s.isEmpty
    | some .equals, some a, [b] => .ok (bool (looselyEqual a b))
    | some .equals, none, [a, b] => .ok (bool (looselyEqual a b))
    | some .text, some a, [] => .ok (string a.text)
    | some .abs, none, [n] => absolute n
    | some .min, none, [a, b] => extreme (· != .gt) a b
    | some .max, none, [a, b] => extreme (· != .lt) a b
    | some .hasItem, some items, [item] => hasItem items item
    | some .hasItem, none, [items, item] => hasItem items item
    | some .count, some items, [] => countOf items
    | some .count, none, [items] => countOf items
    | _, _, _ => .error (.unsupportedMethod m)

end Value

namespace Expr

mutual

/-- The value of an expression. -/
def eval (scope : Scope) : Expr → Except EvalError Value
  | parameter p => scope.parameter p
  | constant v => .ok v
  | lookup key type => scope.lookup key type
  | member target m => do (← eval scope target).memberValue m
  | staticMember m => .error (.staticMember m.name)
  | call target m args => do
    let target ← eval scope target
    Value.invoke m (some target) (← evalAll scope args)
  | staticCall m args => do Value.invoke m none (← evalAll scope args)
  | lambda .. => .error .lambda
  | unary operator operand => do Value.applyUnary operator (← eval scope operand)
  | convert operand type => do (← eval scope operand).converted type
  | binary left .and right => do
    if ← (← eval scope left).truth then
      return .bool (← (← eval scope right).truth)
    else
      return .bool false
  | binary left .or right => do
    if ← (← eval scope left).truth then
      return .bool true
    else
      return .bool (← (← eval scope right).truth)
  | binary left .equal right => do
    let a ← eval scope left
    return .bool (a.looselyEqual (← eval scope right))
  | binary left .notEqual right => do
    let a ← eval scope left
    return .bool !(a.looselyEqual (← eval scope right))
  | binary left (.compare comparison) right => do
    let a ← eval scope left
    Value.applyComparison comparison a (← eval scope right)
  | binary left (.arithmetic operation) right => do
    let a ← eval scope left
    Value.applyArithmetic operation a (← eval scope right)
  | record _ members => return .object (Members.ofList (← evalMembers scope members))

/-- The values of expressions, one after the other. -/
def evalAll (scope : Scope) : List Expr → Except EvalError (List Value)
  | [] => return []
  | e :: rest => do
    let v ← eval scope e
    return v :: (← evalAll scope rest)

/-- The values of named expressions, one after the other. -/
def evalMembers (scope : Scope) : List (String × Expr) → Except EvalError (List (String × Value))
  | [] => return []
  | (name, e) :: rest => do
    let v ← eval scope e
    return (name, v) :: (← evalMembers scope rest)

end

/-- The value of an expression without free parts. -/
def evaluate (e : Expr) : Except EvalError Value := e.eval Scope.empty

end Expr

end DocumentSearch
