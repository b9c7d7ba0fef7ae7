import DocumentSearch.Decimal.Binary

/-!
# Shortest decimals

A double-precision number stands for all reals that round to it. `Decimal.shortest` gives the fewest digits that
lie among them, and of those the digits nearest to the number itself.

The search tries one digit, two digits, and so on up to seventeen, which always suffice. On each grid only the two
neighbours of the number can be nearest, so no others are looked at.
-/

namespace DocumentSearch

/-- The number `digits · 10^exponent`. -/
structure Decimal where
  digits : Nat
  exponent : Int
deriving DecidableEq, Repr

namespace Decimal

/-- Which of two equally near decimals is taken. -/
inductive Tie where
  /-- The greater one. -/
  | up
  /-- The one whose last digit is even. -/
  | even
deriving DecidableEq, Repr

/-- A non-negative fraction; the denominator is positive. -/
private structure Fraction where
  num : Nat
  den : Nat

private def Fraction.scale (x : Fraction) (base : Nat) (k : Int) : Fraction :=
  if 0 ≤ k then ⟨x.num * base.pow k.toNat, x.den⟩ else ⟨x.num, x.den * base.pow (-k).toNat⟩

/-- The `k` with `10^k ≤ m · 2^q < 10^(k + 1)`, for a positive `m`. The quotient 30103 / 100000 is close enough to
the logarithm of two to be off by one at most. -/
private def leadingExponent (m : Nat) (q : Int) : Int :=
  let k := Int.fdiv ((q + m.log2) * 30103) 100000
  let next := (Fraction.mk m 1).scale 2 q |>.scale 10 (-(k + 1))
  if next.den ≤ next.num then k + 1 else k

/-- The trailing zeros moved into the exponent, up to `n` of them. -/
private def stripZeros : Nat → Decimal → Decimal
  | 0, d => d
  | n + 1, d => if d.digits % 10 = 0 then stripZeros n ⟨d.digits / 10, d.exponent + 1⟩ else d

/-- The better of the two decimals with `n` digits next to `m · 2^q` that lie between the ends of its interval, if
one does. All of number and ends are given in quarters of `2^q`. -/
private def onGrid? (tie : Tie) (m lo hi : Nat) (closed : Bool) (q k : Int) (n : Nat) : Option Decimal :=
  let grid := k + 1 - n
  let v := (Fraction.mk m 4).scale 2 q |>.scale 10 (-grid)
  let below := v.num / v.den
  let inside (d : Nat) : Bool :=
    let d' := (Fraction.mk d 1).scale 10 grid |>.scale 2 (-q)
    let x := 4 * d'.num
    if closed then lo * d'.den ≤ x && x ≤ hi * d'.den else lo * d'.den < x && x < hi * d'.den
  let up : Bool :=
    let twice := 2 * (v.num % v.den)
    v.den < twice || (v.den == twice && (match tie with | .up => true | .even => below % 2 == 1))
  let pick (d : Nat) : Option Decimal := some (stripZeros 20 ⟨d, grid⟩)
  match inside below, inside (below + 1) with
  | true, true => pick (if up then below + 1 else below)
  | true, false => pick below
  | false, true => pick (below + 1)
  | false, false => none

/-- The shortest decimal that reads back as `m · 2^q`, for a positive `m` as `Binary.ofFloat` gives it. Below a
power of two the neighbouring number is only half as far away. -/
def shortest (tie : Tie) (m : Nat) (q : Int) : Decimal :=
  let lo := if m = Binary.leadingBit ∧ -1074 < q then 4 * m - 1 else 4 * m - 2
  let k := leadingExponent m q
  let found := (List.range 17).findSome? fun i =>
    onGrid? tie (4 * m) lo (4 * m + 2) (m % 2 == 0) q k (i + 1)
  found.getD ⟨m, q⟩

end Decimal

end DocumentSearch
