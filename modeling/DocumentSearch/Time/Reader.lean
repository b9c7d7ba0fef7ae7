import DocumentSearch.Decimal.Reader
import DocumentSearch.Text.Blank
import DocumentSearch.Time.Instant

/-!
# Reading instants

* `Instant.ofRfc3339?` reads the one form of RFC 3339: every field has its full width and nothing is left out.
* `Instant.ofText?` also takes short fields, blanks between the parts, years of any length with a sign, and offsets
  with or without a colon.

Both read the local time first and then go to universal time by the offset. The second 60 is a leap second wherever
it stands.
-/

namespace DocumentSearch.Instant

/-- A reading step takes some characters off the front, or fails. -/
private abbrev Step := StateT (List Char) Option

private def skip (p : Char → Bool) : Step Unit := modify (·.dropWhile p)

private def skipBlanks : Step Unit := skip Text.isBlankChar

private def one (p : Char → Bool) : Step Char := do
  match ← get with
  | [] => failure
  | c :: rest => if p c then set rest; return c else failure

private def exactly (c : Char) : Step Unit := do
  let _ ← one (· == c)

/-- A run of digits, cut off after `most` if a limit is given. -/
private def number (least : Nat) (most : Option Nat) : Step (List Char) := do
  let all := (← get).takeWhile Char.isDigit
  let digits := match most with
    | some n => all.take n
    | none => all
  if digits.length < least then failure
  modify (·.drop digits.length)
  return digits

private def digits (least most : Nat) : Step Nat :=
  return Decimal.ofDigits (← number least (some most))

/-- The nanoseconds after a point; digits beyond the ninth are dropped. -/
private def fraction : Step Nat := do
  match ← get with
  | '.' :: rest =>
    set rest
    let read ← number 1 (some 9)
    skip Char.isDigit
    return Decimal.ofDigits (read ++ List.replicate (9 - read.length) '0')
  | _ => return 0

/-- The offset from universal time in seconds; `gap` reads what stands between hours and minutes. -/
private def offset (gap : Step Unit) : Step Int := do
  let sign ← one fun c => c == 'Z' || c == 'z' || c == '+' || c == '-' || c == '−'
  if sign == 'Z' || sign == 'z' then
    return 0
  let hours ← digits 2 2
  gap
  let minutes ← digits 2 2
  if minutes > 59 ∨ hours > 23 then failure
  let seconds : Int := hours * 3600 + minutes * 60
  return if sign == '+' then seconds else -seconds

/-- The instant at which clocks with this offset show this date and time. -/
private def ofLocal? (date : Date) (hour minute second nano : Nat) (offset : Int) : Option Instant :=
  if date.isValid && hour ≤ 23 && minute ≤ 59 && second ≤ 60 && (Instant.mk date.toDays 0 0).inRange then
    let ofDay : Int := hour * 3600 + minute * 60 + min second 59 - offset
    let t : Instant :=
      ⟨date.toDays + ofDay / 86400, (ofDay % 86400).toNat, nano + (if second = 60 then 1000000000 else 0)⟩
    if t.inRange then some t else none
  else
    none

private def separator (c : Char) : Bool := c == 'T' || c == 't' || c == ' '

private def rfc3339 : Step (Option Instant) := do
  let year ← digits 4 4
  exactly '-'
  let month ← digits 2 2
  exactly '-'
  let day ← digits 2 2
  let _ ← one separator
  let hour ← digits 2 2
  exactly ':'
  let minute ← digits 2 2
  exactly ':'
  let second ← digits 2 2
  let nano ← fraction
  let offset ← offset (exactly ':')
  return ofLocal? ⟨year, month, day⟩ hour minute second nano offset

/-- The instant written in the full form of RFC 3339. -/
def ofRfc3339? (s : String) : Option Instant :=
  match rfc3339.run s.toList with
  | some (t, []) => t
  | _ => none

private def signedYear : Step Int := do
  match ← get with
  | '-' :: rest => set rest; return -(Decimal.ofDigits (← number 1 none) : Int)
  | '+' :: rest => set rest; return Decimal.ofDigits (← number 1 none)
  | _ => return (← digits 1 4)

/-- A field of up to two digits with blanks before it. -/
private def shortField : Step Nat := do
  skipBlanks
  digits 1 2

private def punctuation (c : Char) : Step Unit := do
  skipBlanks
  exactly c

private def looseOffset : Step Int := do
  let rest ← get
  if (rest.take 3).map Char.toUpper = ['U', 'T', 'C'] then
    set (rest.drop 3)
    return 0
  else
    offset (skip fun c => c == ':' || Text.isBlankChar c)

private def looseForm : Step (Option Instant) := do
  skipBlanks
  let year ← signedYear
  punctuation '-'
  let month ← shortField
  punctuation '-'
  let day ← shortField
  let _ ← one separator
  let hour ← shortField
  punctuation ':'
  let minute ← shortField
  punctuation ':'
  let second ← shortField
  let nano ← fraction
  skipBlanks
  let offset ← looseOffset
  skipBlanks
  return ofLocal? ⟨year, month, day⟩ hour minute second nano offset

/-- The instant written in a form close to RFC 3339. -/
def ofText? (s : String) : Option Instant :=
  match looseForm.run s.toList with
  | some (t, []) => t
  | _ => none

end DocumentSearch.Instant
