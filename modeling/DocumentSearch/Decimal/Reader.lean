import DocumentSearch.Decimal.Binary

/-!
# Reading numbers

* `Decimal.integer?` reads a whole number with an optional sign.
* `Decimal.float?` reads a decimal numeral, or a name of infinity or of no number, and rounds to nearest.
-/

namespace DocumentSearch.Decimal

/-- The value of a run of decimal digits. -/
def ofDigits (digits : List Char) : Nat :=
  digits.foldl (fun n c => 10 * n + (c.toNat - 48)) 0

/-- The sign in front of a numeral, and the rest. -/
def splitSign : List Char → Bool × List Char
  | '-' :: rest => (true, rest)
  | '+' :: rest => (false, rest)
  | rest => (false, rest)

/-- A whole number in decimal digits, with an optional sign. -/
def integer? (text : String) : Option Int :=
  let (negative, digits) := splitSign text.toList
  if digits.isEmpty || !digits.all Char.isDigit then
    none
  else
    let n : Int := ofDigits digits
    some (if negative then -n else n)

/-- An exponent part: nothing, or `e` with a whole number. -/
private def exponentPart? : List Char → Option Int
  | [] => some 0
  | c :: rest => if c = 'e' || c = 'E' then integer? (String.ofList rest) else none

private def magnitude? (text : List Char) : Option Float :=
  let whole := text.takeWhile Char.isDigit
  let afterWhole := text.dropWhile Char.isDigit
  let (fraction, rest) :=
    match afterWhole with
    | '.' :: more => (more.takeWhile Char.isDigit, more.dropWhile Char.isDigit)
    | _ => ([], afterWhole)
  if whole.isEmpty && fraction.isEmpty then
    none
  else
    (exponentPart? rest).map fun exponent =>
      let place : Int := exponent - fraction.length
      Float.ofScientific (ofDigits (whole ++ fraction)) (decide (place < 0)) place.natAbs

/-- A decimal numeral with an optional sign, fraction and exponent, or `inf`, `infinity` or `nan` in any letter
case. -/
def float? (text : String) : Option Float :=
  let (negative, unsigned) := splitSign text.toList
  let name := String.ofList (unsigned.map Char.toLower)
  let magnitude :=
    if name = "inf" || name = "infinity" then
      some (Binary.infinite false).toFloat
    else if name = "nan" then
      some Binary.nan.toFloat
    else
      magnitude? unsigned
  magnitude.map fun x => if negative then -x else x

end DocumentSearch.Decimal
