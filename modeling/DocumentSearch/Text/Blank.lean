import DocumentSearch.Text.CharClass

/-!
# Blanks

The blank characters are those with the Unicode property White_Space, and no others.
-/

namespace DocumentSearch.Text

/-- The Unicode white space. -/
def blanks : CharClass :=
  [(0x09, 0x0D), (0x20, 0x20), (0x85, 0x85), (0xA0, 0xA0), (0x1680, 0x1680), (0x2000, 0x200A), (0x2028, 0x2029),
   (0x202F, 0x202F), (0x205F, 0x205F), (0x3000, 0x3000)]

/-- A character that separates words and shows nothing. -/
def isBlankChar (c : Char) : Bool := blanks.has c

/-- A text of blanks only; the empty text is one. -/
def isBlank (s : String) : Bool := s.toList.all isBlankChar

/-- The text without the blanks at its two ends. -/
def trim (s : String) : String :=
  String.ofList (((s.toList.dropWhile isBlankChar).reverse.dropWhile isBlankChar).reverse)

end DocumentSearch.Text
