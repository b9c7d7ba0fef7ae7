/-!
# Escaping

A character that has a meaning in a pattern stands for itself behind a backslash.
-/

namespace DocumentSearch.Text

/-- The text with a backslash before each reserved character. -/
def escape (reserved : List Char) (s : String) : String :=
  String.ofList (s.toList.flatMap fun c => if reserved.contains c then ['\\', c] else [c])

/-- The characters with a meaning in a wildcard pattern. -/
def wildcardReserved : List Char := ['*', '?', '\\']

/-- The characters with a meaning in a regular expression of the engine. -/
def regexpReserved : List Char :=
  ['.', '?', '+', '*', '|', '\x7b', '\x7d', '[', ']', '(', ')', '"', '\\', '#', '@', '&', '<', '>', '~']

end DocumentSearch.Text
