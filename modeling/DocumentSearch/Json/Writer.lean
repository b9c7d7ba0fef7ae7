import DocumentSearch.Decimal.Layout
import DocumentSearch.Json.Basic

/-!
# Writing JSON

The compact text of a document: no blanks, members in their order. In a string only quotes, backslashes and control
characters are escaped. A number that is not finite is written `null`.
-/

namespace DocumentSearch.Json

private def hexDigits (n : Nat) : List Char :=
  let digits := Nat.toDigits 16 n
  List.replicate (4 - digits.length) '0' ++ digits

private def escapedChar (c : Char) : List Char :=
  match c with
  | '"' => ['\\', '"']
  | '\\' => ['\\', '\\']
  | '\x08' => ['\\', 'b']
  | '\x0c' => ['\\', 'f']
  | '\n' => ['\\', 'n']
  | '\r' => ['\\', 'r']
  | '\t' => ['\\', 't']
  | c => if c.toNat < 0x20 then '\\' :: 'u' :: hexDigits c.toNat else [c]

/-- A string between quotes. -/
def stringText (s : String) : String := String.ofList ('"' :: s.toList.flatMap escapedChar ++ ['"'])

/-- A number that is not an integer. -/
def floatText (x : Float) : String :=
  if x.isFinite then Decimal.Layout.wire.text x else "null"

mutual

/-- The compact text of a document. -/
def text : Json → String
  | null => "null"
  | bool b => if b then "true" else "false"
  | integer n => toString n
  | float x => floatText x
  | string s => stringText s
  | array items => "[" ++ ",".intercalate (itemTexts items) ++ "]"
  | object members => "\x7b" ++ ",".intercalate (memberTexts members) ++ "\x7d"

/-- The text of each item. -/
def itemTexts : List Json → List String
  | [] => []
  | j :: rest => text j :: itemTexts rest

/-- The name and value of each member. -/
def memberTexts : List (String × Json) → List String
  | [] => []
  | (name, j) :: rest => (stringText name ++ ":" ++ text j) :: memberTexts rest

end

end DocumentSearch.Json
