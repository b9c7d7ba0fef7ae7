/-!
# Binary fractions

A finite double-precision number is exactly `± m · 2^q`. `Binary` holds such a number together with the values
that are no numbers, and the operations here are exact integer arithmetic on `m` and `q`.

* `Binary.ofFloat` and `Binary.toFloat` go between a number and its bits.
* `Binary.truncate?` drops the fraction, `Binary.between` compares with integer bounds.
* `Binary.remainder` is the remainder of a division truncated toward zero; it never needs rounding.
-/

namespace DocumentSearch

/-- What a double-precision number stands for. -/
inductive Binary where
  /-- No number at all. -/
  | nan
  /-- Beyond every finite number, on one side. -/
  | infinite (negative : Bool)
  /-- The number `mantissa · 2^exponent`, negated if `negative`; zero keeps its sign. -/
  | finite (negative : Bool) (mantissa : Nat) (exponent : Int)
deriving DecidableEq, Repr

namespace Binary

/-- The first bit of a mantissa at full precision. -/
def leadingBit : Nat := 1 <<< 52

/-- The exact reading of a double-precision number. -/
def ofFloat (x : Float) : Binary :=
  let bits := x.toBits.toNat
  let negative := bits >>> 63 == 1
  let biased : Nat := (bits >>> 52) % 2048
  let fraction : Nat := bits % leadingBit
  if biased = 2047 then
    if fraction = 0 then infinite negative else nan
  else if biased = 0 then
    finite negative fraction (-1074)
  else
    finite negative (leadingBit + fraction) ((biased : Int) - 1075)

/-- The bits of `m · 2^q`, which must be a number that double precision holds. -/
def magnitudeBits (m : Nat) (q : Int) : Nat :=
  if m = 0 then
    0
  else
    let e := max (-1074) (q + m.log2 - 52)
    let m' := if e ≤ q then m <<< (q - e).toNat else m >>> (e - q).toNat
    if m' < leadingBit then m' else (e + 1075).toNat * leadingBit + (m' - leadingBit)

/-- The double-precision number with this exact reading. -/
def toFloat : Binary → Float
  | nan => Float.ofBits 0x7FF8000000000000
  | infinite negative => Float.ofBits (if negative then 0xFFF0000000000000 else 0x7FF0000000000000)
  | finite negative m q => Float.ofBits (UInt64.ofNat ((if negative then 1 <<< 63 else 0) + magnitudeBits m q))

/-- The integer `mantissa · 2^exponent` without its fraction, sign included. -/
def truncated (negative : Bool) (m : Nat) (q : Int) : Int :=
  let n : Nat := if 0 ≤ q then m <<< q.toNat else m >>> (-q).toNat
  if negative then -n else n

/-- A finite number without its fraction. -/
def truncate? : Binary → Option Int
  | finite negative m q => some (truncated negative m q)
  | _ => none

/-- A number lies between two integers, the ends included. -/
def between (lo hi : Int) : Binary → Bool
  | finite negative m q =>
    let v : Int := if negative then -m else m
    let scale : Nat := 1 <<< q.natAbs
    if 0 ≤ q then lo ≤ v * scale && v * scale ≤ hi else lo * scale ≤ v && v ≤ hi * scale
  | _ => false

/-- What is left of `a` after taking away `b` as often as possible. The result has the sign of `a`. -/
def remainder (a b : Binary) : Binary :=
  match a, b with
  | finite s m p, finite _ n q =>
    if n = 0 then
      nan
    else
      let e := min p q
      finite s (m <<< (p - e).toNat % (n <<< (q - e).toNat)) e
  | finite s m p, infinite _ => finite s m p
  | _, _ => nan

end Binary

end DocumentSearch
