import DocumentSearch.Text.Unprinted

/-!
# Quoted texts

A text is quoted so that it can be read off a message without doubt: quotes, backslashes and line ends are escaped,
and what would not show is given by its code point.
-/

namespace DocumentSearch.Text

private def lowerHex (n : Nat) : List Char := Nat.toDigits 16 n

private def quotedChar (c : Char) : List Char :=
  match c with
  | '"' => ['\\', '"']
  | '\\' => ['\\', '\\']
  | '\n' => ['\\', 'n']
  | '\r' => ['\\', 'r']
  | '\t' => ['\\', 't']
  | '\x00' => ['\\', '0']
  | c => if unprinted.has c then ['\\', 'u', '\x7b'] ++ lowerHex c.toNat ++ ['\x7d'] else [c]

/-- The text between quotes, with escapes. -/
def quoted (s : String) : String :=
  String.ofList ('"' :: s.toList.flatMap quotedChar ++ ['"'])

end DocumentSearch.Text
