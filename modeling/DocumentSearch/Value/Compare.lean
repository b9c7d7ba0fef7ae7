import DocumentSearch.Value.Basic

/-!
# Comparing values

* `Value.same`: equal in kind and content; objects are compared without regard to the order of their members.
* `Value.looselyEqual`: numbers are compared across their kinds, also within arrays, but not within objects.
* `Value.compare?`: the order within numbers, strings, truth values and instants.
-/

namespace DocumentSearch.Value

mutual

/-- Equality of kind and content. -/
def same : Value → Value → Bool
  | null, null => true
  | bool a, bool b => a == b
  | int32 m, int32 n => m == n
  | int64 m, int64 n => m == n
  | float x, float y => x == y
  | string s, string t => s == t
  | dateTime s, dateTime t => s == t
  | array as, array bs => sameItems as bs
  | object as, object bs => as.length == bs.length && sameMembers as bs
  | _, _ => false

/-- Equality of items, place by place. -/
def sameItems : List Value → List Value → Bool
  | [], [] => true
  | a :: as, b :: bs => same a b && sameItems as bs
  | _, _ => false

/-- Each member has its equal among the others. -/
def sameMembers : List (String × Value) → List (String × Value) → Bool
  | [], _ => true
  | (name, a) :: rest, bs =>
    (match Members.get? bs name with
      | some b => same a b
      | none => false) && sameMembers rest bs

end

instance : BEq Value := ⟨same⟩

/-- Loose equality of values that are not both arrays: integers as integers, other numbers in double precision. -/
def looselyEqualScalars (a b : Value) : Bool :=
  match a.integer?, b.integer? with
  | some m, some n => m == n
  | _, _ =>
    match a.number?, b.number? with
    | some x, some y => x == y
    | _, _ => a == b

mutual

/-- Equality that takes all kinds of numbers as one. -/
def looselyEqual : Value → Value → Bool
  | array as, array bs => looselyEqualItems as bs
  | a, b => looselyEqualScalars a b

/-- Loose equality of items, place by place. -/
def looselyEqualItems : List Value → List Value → Bool
  | [], [] => true
  | a :: as, b :: bs => looselyEqual a b && looselyEqualItems as bs
  | _, _ => false

end

/-- The order of double-precision numbers; there is none if one of them is not a number. -/
def compareFloats? (x y : Float) : Option Ordering :=
  if x < y then some .lt
  else if x == y then some .eq
  else if x > y then some .gt
  else none

/-- The order of two values of one family; there is none across families. Strings are ordered by code point. -/
def compare? (a b : Value) : Option Ordering :=
  match a, b with
  | string s, string t => some (compare s t)
  | bool p, bool q => some (compare p q)
  | dateTime s, dateTime t => some (compare s t)
  | a, b =>
    match a.integer?, b.integer? with
    | some m, some n => some (compare m n)
    | _, _ => do compareFloats? (← a.number?) (← b.number?)

end DocumentSearch.Value
