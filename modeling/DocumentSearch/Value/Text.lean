import DocumentSearch.Decimal.Layout
import DocumentSearch.Value.Basic

/-!
# The text of a value

`Value.text` is the value as a person would write it, `Value.inspect` shows its kind as well.
-/

namespace DocumentSearch.Value

/-- The text of a truth value. -/
def boolText (b : Bool) : String := if b then "true" else "false"

mutual

/-- The value in plain words: a string stands for itself. -/
def text : Value → String
  | null => "null"
  | bool b => boolText b
  | int32 n => toString n.toInt
  | int64 n => toString n.toInt
  | float x => Decimal.Layout.inspected.text x
  | string s => s
  | dateTime t => t.offsetText
  | array items => Text.listText (itemTexts items)
  | object members => "\x7b" ++ ", ".intercalate (memberTexts members) ++ "\x7d"

/-- The text of each item. -/
def itemTexts : List Value → List String
  | [] => []
  | v :: rest => text v :: itemTexts rest

/-- The name and text of each member. -/
def memberTexts : List (String × Value) → List String
  | [] => []
  | (name, v) :: rest => (name ++ ": " ++ text v) :: memberTexts rest

end

mutual

/-- The value with its kind. -/
def inspect : Value → String
  | null => "Null"
  | bool b => Text.callText "Bool" [boolText b]
  | int32 n => Text.callText "I32" [toString n.toInt]
  | int64 n => Text.callText "I64" [toString n.toInt]
  | float x => Text.callText "F64" [Decimal.Layout.inspected.text x]
  | string s => Text.callText "String" [Text.quoted s]
  | dateTime t => Text.callText "DateTime" [t.zuluText]
  | array items => Text.callText "Array" [Text.listText (inspectItems items)]
  | object members =>
    Text.callText "Object" ["\x7b" ++ ", ".intercalate (inspectMembers members) ++ "\x7d"]

/-- `inspect` for each item. -/
def inspectItems : List Value → List String
  | [] => []
  | v :: rest => inspect v :: inspectItems rest

/-- `inspect` for each member. -/
def inspectMembers : List (String × Value) → List String
  | [] => []
  | (name, v) :: rest => (Text.quoted name ++ ": " ++ inspect v) :: inspectMembers rest

end

end DocumentSearch.Value
