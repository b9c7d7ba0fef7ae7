/-!
# Looking for a text in a text

The three tests compare character by character, without regard to any locale.
-/

namespace DocumentSearch.Text

/-- A list occurs in another without a gap. -/
def occursIn (needle : List Char) : List Char → Bool
  | [] => needle.isEmpty
  | c :: rest => needle.isPrefixOf (c :: rest) || occursIn needle rest

/-- The text begins with `start`. -/
def startsWith (s start : String) : Bool := start.toList.isPrefixOf s.toList

/-- The text ends with `tail`. -/
def endsWith (s tail : String) : Bool := tail.toList.isSuffixOf s.toList

/-- The text holds `needle` somewhere. -/
def contains (s needle : String) : Bool := occursIn needle.toList s.toList

end DocumentSearch.Text
