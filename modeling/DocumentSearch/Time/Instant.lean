import DocumentSearch.Time.Calendar

/-!
# Instants

A point in universal time, to the nanosecond. A leap second is the sixtieth second of a minute; its nanoseconds
are counted on from those of the second before it.

* `Instant.text` writes an instant, `Instant.ofMillis?` counts from 1970.
-/

namespace DocumentSearch

/-- A point in time: the day counted from 1970-01-01, the second of the day, and the nanoseconds, which reach
beyond one second within a leap second. -/
structure Instant where
  day : Int
  second : Nat
  nano : Nat
deriving DecidableEq, Repr

namespace Instant

/-- Instants are ordered by day, second and nanosecond. -/
instance : Ord Instant where
  compare := compareLex (compareOn day) (compareLex (compareOn second) (compareOn nano))

/-- Midnight at the start of 1970. -/
def epoch : Instant := ⟨0, 0, 0⟩

/-- The first and the last day that can be named. -/
def dayRange : Int × Int := (Date.toDays ⟨-262143, 1, 1⟩, Date.toDays ⟨262142, 12, 31⟩)

/-- The instant lies on a day that can be named. -/
def inRange (t : Instant) : Bool := dayRange.1 ≤ t.day && t.day ≤ dayRange.2

/-- The instant so many milliseconds after the start of 1970. -/
def ofMillis? (millis : Int) : Option Instant :=
  let seconds := millis / 1000
  let t : Instant := ⟨seconds / 86400, (seconds % 86400).toNat, (millis % 1000).toNat * 1000000⟩
  if t.inRange then some t else none

/-- How much of the fraction of a second is written. -/
inductive Precision where
  /-- None, or three, six or nine digits: the fewest that are exact. -/
  | exact
  /-- Three digits, the rest cut off. -/
  | millis
deriving DecidableEq, Repr

private def padded (width n : Nat) : String :=
  let digits := toString n
  String.ofList (List.replicate (width - digits.length) '0') ++ digits

/-- A year of four digits, or one with a sign and at least four digits. -/
private def yearText (year : Int) : String :=
  if 0 ≤ year ∧ year ≤ 9999 then
    padded 4 year.toNat
  else
    (if year < 0 then "-" else "+") ++ padded 4 year.natAbs

private def fractionText (precision : Precision) (nano : Nat) : String :=
  match precision with
  | .millis => "." ++ padded 3 (nano / 1000000)
  | .exact =>
    if nano = 0 then
      ""
    else if nano % 1000000 = 0 then
      "." ++ padded 3 (nano / 1000000)
    else if nano % 1000 = 0 then
      "." ++ padded 6 (nano / 1000)
    else
      "." ++ padded 9 nano

/-- Date and time of day with a `T` between, and `zone` at the end. -/
def text (precision : Precision) (zone : String) (t : Instant) : String :=
  let date := Date.ofDays t.day
  let second := t.second % 60 + t.nano / 1000000000
  yearText date.year ++ "-" ++ padded 2 date.month ++ "-" ++ padded 2 date.day ++ "T"
    ++ padded 2 (t.second / 3600) ++ ":" ++ padded 2 (t.second / 60 % 60) ++ ":" ++ padded 2 second
    ++ fractionText precision (t.nano % 1000000000) ++ zone

/-- The text with `Z` for the zone. -/
def zuluText (t : Instant) : String := t.text .exact "Z"

/-- The text with the zone as an offset. -/
def offsetText (t : Instant) : String := t.text .exact "+00:00"

end Instant

end DocumentSearch
