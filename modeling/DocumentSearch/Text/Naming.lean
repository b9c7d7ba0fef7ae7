import DocumentSearch.Text.Case

/-!
# Names

Field and type names are written in camel case, and document types in the plural.
-/

namespace DocumentSearch.Text

/-- The parts between underscores that are not empty. -/
private def words (name : String) : List (List Char) :=
  (name.toList.splitOn '_').filter (!·.isEmpty)

private def withInitial (f : Char → List Char) : List Char → List Char
  | [] => []
  | c :: rest => f c ++ rest

/-- The words of a name joined: the first begins in lower case and each later one in upper case. -/
def camelCase (name : String) : String :=
  match words name with
  | [] => ""
  | first :: later =>
    String.ofList (withInitial lowerChar first ++ later.flatMap (withInitial upperChar))

/-- The plural of an English noun, by its ending. -/
def plural (name : String) : String :=
  let ending := name.toList.reverse
  let vowel (c : Char) : Bool := "aeiou".toList.contains c
  match ending with
  | 'y' :: c :: stem => if vowel c then name ++ "s" else String.ofList ((c :: stem).reverse) ++ "ies"
  | 's' :: _ | 'x' :: _ | 'h' :: 'c' :: _ | 'h' :: 's' :: _ => name ++ "es"
  | _ => name ++ "s"

end DocumentSearch.Text
