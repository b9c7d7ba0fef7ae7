import DocumentSearch.Decimal.Reader
import DocumentSearch.Json.Basic

/-!
# Reading JSON numbers

An integer of at most 64 bits is read exactly. Any other number becomes a double-precision number: the leading
digits that fit in 64 bits, rounded to double precision and scaled by a power of ten.
-/

namespace DocumentSearch.Json

/-- The parts of a numeral. The digits after the point are missing if there is no point. -/
private structure Numeral where
  negative : Bool
  whole : List Char
  fraction : Option (List Char)
  exponent : Option Int

private def exponentOf? : List Char → Option (Option Int)
  | [] => some none
  | c :: rest =>
    if c = 'e' || c = 'E' then (Decimal.integer? (String.ofList rest)).map some else none

private def numeralOf? (cs : List Char) : Option Numeral := do
  let (negative, unsigned) := match cs with
    | '-' :: rest => (true, rest)
    | _ => (false, cs)
  let whole := unsigned.takeWhile Char.isDigit
  let rest := unsigned.dropWhile Char.isDigit
  if whole.isEmpty || (whole.head? == some '0' && whole.length > 1) then failure
  match rest with
  | '.' :: more =>
    let fraction := more.takeWhile Char.isDigit
    if fraction.isEmpty then failure
    return ⟨negative, whole, some fraction, ← exponentOf? (more.dropWhile Char.isDigit)⟩
  | _ => return ⟨negative, whole, none, ← exponentOf? rest⟩

/-- Takes digits into `n` while the result has at most 64 bits. The second part is the number of digits left. -/
private def significand (n : Nat) : List Char → Nat × Nat
  | [] => (n, 0)
  | c :: rest =>
    let next := 10 * n + (c.toNat - 48)
    if next < UInt64.size then significand next rest else (n, rest.length + 1)

private def powerOfTen (n : Nat) : Float := Float.ofScientific 1 false n

/-- `x · 10^exponent`, by one multiplication or division, after divisions by 10^308 if the exponent is too small for
one. -/
private def scale (x : Float) (exponent : Int) : Float :=
  if 0 ≤ exponent then
    if 308 < exponent ∧ x == 0 then x else x * powerOfTen exponent.toNat
  else if -308 ≤ exponent then
    x / powerOfTen exponent.natAbs
  else if x == 0 then
    x
  else
    scale (x / powerOfTen 308) (exponent + 308)
termination_by exponent.natAbs

private def floatOf (numeral : Numeral) : Float :=
  let (whole, dropped) := significand 0 numeral.whole
  let fraction := numeral.fraction.getD []
  let (digits, unread) := significand whole fraction
  let places : Int := dropped - (fraction.length - unread : Nat)
  let x := scale (Float.ofNat digits) (places + numeral.exponent.getD 0)
  if numeral.negative then -x else x

/-- The number written by these characters. Minus zero is no integer. -/
def numeral? (cs : List Char) : Option Json :=
  (numeralOf? cs).map fun numeral =>
    let n := Decimal.ofDigits numeral.whole
    let isInteger := numeral.fraction.isNone && numeral.exponent.isNone
    if isInteger && !numeral.negative && n < UInt64.size then
      integer n
    else if isInteger && numeral.negative && 0 < n && Int64.minValue.toInt ≤ -n then
      integer (-n)
    else
      float (floatOf numeral)

end DocumentSearch.Json
