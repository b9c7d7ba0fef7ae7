import DocumentSearch.Decimal.Shortest

/-!
# Decimal layouts

The shortest digits of a number can be laid out in several ways. A `Layout` says which exponents are written
positionally, whether a whole number keeps its point, and how the rest is spelled.

* `Layout.inspected` is used wherever a value is shown to a person.
* `Layout.wire` is used in documents.
* `Layout.plain` has no exponent and no point that is not needed.
-/

namespace DocumentSearch.Decimal

/-- How the digits of a number are laid out. -/
structure Layout where
  /-- Which of two equally near decimals is written. -/
  tie : Tie
  /-- The least and greatest place of the leading digit that are written without an exponent; all if missing. -/
  positional : Option (Int × Int)
  /-- A whole number ends in `.0`. -/
  keepsPoint : Bool
  /-- A positive exponent has a sign. -/
  signsExponent : Bool

/-- Numbers from 1e-4 up to 1e16 are positional, and always with a point. -/
def Layout.inspected : Layout := ⟨.up, some (-4, 15), true, false⟩

/-- Numbers from 1e-5 up to 1e16 are positional, and always with a point; exponents have a sign. -/
def Layout.wire : Layout := ⟨.even, some (-5, 15), true, true⟩

/-- All numbers are positional, whole ones without a point. -/
def Layout.plain : Layout := ⟨.up, none, false, false⟩

private def zeros (n : Int) : String := String.ofList (List.replicate n.toNat '0')

private def positionalText (layout : Layout) (digits : List Char) (exponent : Int) : String :=
  let point := (digits.length : Int) + exponent
  if 0 ≤ exponent then
    String.ofList digits ++ zeros exponent ++ (if layout.keepsPoint then ".0" else "")
  else if 0 < point then
    String.ofList (digits.take point.toNat) ++ "." ++ String.ofList (digits.drop point.toNat)
  else
    "0." ++ zeros (-point) ++ String.ofList digits

private def exponentText (layout : Layout) (digits : List Char) (place : Int) : String :=
  let tail := digits.drop 1
  let mantissa := String.ofList (digits.take 1) ++ (if tail.isEmpty then "" else "." ++ String.ofList tail)
  mantissa ++ "e" ++ (if layout.signsExponent && 0 ≤ place then "+" else "") ++ toString place

/-- A decimal laid out without a sign. -/
def Layout.write (layout : Layout) (d : Decimal) : String :=
  let digits := (toString d.digits).toList
  let place := (digits.length : Int) - 1 + d.exponent
  match layout.positional with
  | none => positionalText layout digits d.exponent
  | some (least, greatest) =>
    if least ≤ place ∧ place ≤ greatest then
      positionalText layout digits d.exponent
    else
      exponentText layout digits place

/-- The text of a double-precision number. -/
def Layout.text (layout : Layout) (x : Float) : String :=
  match Binary.ofFloat x with
  | .nan => "NaN"
  | .infinite negative => if negative then "-inf" else "inf"
  | .finite negative m q =>
    let sign := if negative then "-" else ""
    if m = 0 then
      sign ++ layout.write ⟨0, 0⟩
    else
      sign ++ layout.write (shortest layout.tie m q)

end DocumentSearch.Decimal
