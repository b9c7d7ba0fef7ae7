import DocumentSearch.Text.Quoted

/-!
# Structural text

Messages show trees in full: a node by its name, followed by its arguments in parentheses or by its named fields in
braces.
-/

namespace DocumentSearch.Text

/-- Items between brackets. -/
def listText (items : List String) : String := "[" ++ ", ".intercalate items ++ "]"

/-- A name with arguments. -/
def callText (name : String) (arguments : List String) : String :=
  name ++ "(" ++ ", ".intercalate arguments ++ ")"

/-- A name with named fields. -/
def recordText (name : String) (fields : List (String × String)) : String :=
  name ++ " \x7b " ++ ", ".intercalate (fields.map fun (field, text) => field ++ ": " ++ text) ++ " \x7d"

/-- What may be missing. -/
def optionText : Option String → String
  | none => "None"
  | some text => callText "Some" [text]

end DocumentSearch.Text
