import DocumentSearch.Text.Case.Tables

/-!
# Letter case

Lower and upper case of whole texts by the Unicode rules that hold in every language. A letter may become several,
and a capital sigma at the end of a word becomes the final sigma; all else goes letter by letter.

* `lowerChar`, `upperChar` map one character.
* `lower`, `upper` map a text.
-/

namespace DocumentSearch.Text

/-- The letter that another one has in the first run that it is in. -/
def mapped? (runs : List CaseRun) (c : Char) : Option Char :=
  let n := c.toNat
  (runs.find? fun r => r.first ≤ n && n ≤ r.last && (n - r.first) % r.step == 0).map fun r =>
    Char.ofNat ((n : Int) + r.shift).toNat

/-- The lower-case form of one character, whatever stands around it. -/
def lowerChar (c : Char) : List Char :=
  if c.toNat < 0x80 then
    [c.toLower]
  else if c.toNat = 0x130 then
    ['i', Char.ofNat 0x307]
  else
    [(mapped? lowerRuns c).getD c]

/-- The upper-case form of one character. -/
def upperChar (c : Char) : List Char :=
  if c.toNat < 0x80 then
    [c.toUpper]
  else
    match upperExpansions.lookup c.toNat with
    | some letters => letters.map Char.ofNat
    | none => [(mapped? upperRuns c).getD c]

/-- The first character that is not ignorable is a cased letter. -/
private def meetsCased (cs : List Char) : Bool :=
  (cs.dropWhile caseIgnorable.has).head?.any cased.has

/-- The lower-case form of a capital sigma between what stands before it, nearest first, and what follows. It is
final after a letter and before none. -/
def lowerSigma (before after : List Char) : Char :=
  if meetsCased before && !meetsCased after then 'ς' else 'σ'

/-- The lower-case form of what follows on the given characters, nearest first. -/
def lowerFrom (before : List Char) : List Char → List Char
  | [] => []
  | c :: rest => (if c = 'Σ' then [lowerSigma before rest] else lowerChar c) ++ lowerFrom (c :: before) rest

/-- The text in lower case. -/
def lower (s : String) : String := String.ofList (lowerFrom [] s.toList)

/-- The text in upper case. -/
def upper (s : String) : String := String.ofList (s.toList.flatMap upperChar)

end DocumentSearch.Text
