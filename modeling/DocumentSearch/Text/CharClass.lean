/-!
# Character classes

A class of characters is a list of ranges of code points, the ends included.
-/

namespace DocumentSearch.Text

/-- Ranges of code points. -/
abbrev CharClass := List (Nat × Nat)

/-- A character lies in one of the ranges. -/
def CharClass.has (ranges : CharClass) (c : Char) : Bool :=
  ranges.any fun (first, last) => first ≤ c.toNat && c.toNat ≤ last

end DocumentSearch.Text
