import DocumentSearch.Json.Number

/-!
# Reading JSON

Reading goes in two steps: `Json.scan` cuts the text into tokens, and `Json.Reading.step` takes one token after the
other, with the containers that are still open on a stack.

* `Json.ofWritten?` keeps every member as it was written, repeated names included. In place of a part that no document
  can hold there is `Json.unreadable`.
* `Json.ofText?` keeps one member for each name, and refuses such parts.
-/

namespace DocumentSearch.Json

/-- A token. A string is missing if a part of it is no character; any other scalar is a document of its own. -/
inductive Token where
  | beginArray
  | endArray
  | beginObject
  | endObject
  | colon
  | comma
  | text (s : Option String)
  | scalar (j : Json)

private def isSpace (c : Char) : Bool := c == ' ' || c == '\t' || c == '\n' || c == '\r'

private def punctuation? : Char → Option Token
  | '[' => some .beginArray
  | ']' => some .endArray
  | '\x7b' => some .beginObject
  | '\x7d' => some .endObject
  | ':' => some .colon
  | ',' => some .comma
  | _ => none

private def hexValue? (c : Char) : Option Nat :=
  if c.isDigit then some (c.toNat - 48)
  else if 'a' ≤ c && c ≤ 'f' then some (c.toNat - 87)
  else if 'A' ≤ c && c ≤ 'F' then some (c.toNat - 55)
  else none

private def codeUnit? (a b c d : Char) : Option Nat := do
  return (((← hexValue? a) * 16 + (← hexValue? b)) * 16 + (← hexValue? c)) * 16 + (← hexValue? d)

private def simpleEscape? : Char → Option Char
  | '"' => some '"'
  | '\\' => some '\\'
  | '/' => some '/'
  | 'b' => some '\x08'
  | 'f' => some '\x0c'
  | 'n' => some '\n'
  | 'r' => some '\r'
  | 't' => some '\t'
  | _ => none

private def isHighSurrogate (n : Nat) : Bool := 0xD800 ≤ n && n < 0xDC00

private def isLowSurrogate (n : Nat) : Bool := 0xDC00 ≤ n && n < 0xE000

/-- The second half of a surrogate pair, if it comes next. -/
private def lowHalf? : List Char → Option Nat
  | '\\' :: 'u' :: a :: b :: c :: d :: _ => (codeUnit? a b c d).filter isLowSurrogate
  | _ => none

/-- The character that `c` begins within a string, and how many more characters belong to it. Half a surrogate pair
is no character. -/
private def stringChar? (c : Char) (rest : List Char) : Option (Option Char × Nat) :=
  if c = '\\' then
    match rest with
    | 'u' :: a :: b :: c :: d :: more => do
      let n ← codeUnit? a b c d
      if isLowSurrogate n then
        return (none, 5)
      else if isHighSurrogate n then
        match lowHalf? more with
        | some m => return (some (Char.ofNat (0x10000 + (n - 0xD800) * 0x400 + (m - 0xDC00))), 11)
        | none => return (none, 5)
      else
        return (some (Char.ofNat n), 5)
    | e :: _ => (simpleEscape? e).map (some ·, 1)
    | [] => none
  else if c.toNat < 0x20 then
    none
  else
    some (some c, 0)

/-- The inside of a string up to its closing quote, and how many characters that is, the quote included. -/
private def stringBody? (cs : List Char) : Option (List (Option Char) × Nat) :=
  match cs with
  | [] => none
  | c :: rest =>
    if c = '"' then
      some ([], 1)
    else do
      let (x, n) ← stringChar? c rest
      let (s, k) ← stringBody? (rest.drop n)
      return (x :: s, k + n + 1)
termination_by cs.length
decreasing_by
  simp only [List.length_drop, List.length_cons]
  omega

private def isWordChar (c : Char) : Bool := c.isAlphanum || c == '+' || c == '-' || c == '.'

private def word? (cs : List Char) : Option Json :=
  match String.ofList cs with
  | "null" => some null
  | "true" => some (bool true)
  | "false" => some (bool false)
  | _ => numeral? cs

/-- The tokens of a text. -/
def scan (cs : List Char) : Option (List Token) :=
  match cs with
  | [] => some []
  | c :: rest =>
    if isSpace c then
      scan rest
    else if c = '"' then do
      let (s, k) ← stringBody? rest
      return .text ((s.mapM id).map String.ofList) :: (← scan (rest.drop k))
    else
      match punctuation? c with
      | some token => (scan rest).map (token :: ·)
      | none => do
        let j ← word? (c :: rest.takeWhile isWordChar)
        return .scalar j :: (← scan (rest.dropWhile isWordChar))
termination_by cs.length
decreasing_by
  · simp only [List.length_cons, Nat.lt_add_one]
  · simp only [List.length_drop, List.length_cons]
    omega
  · simp only [List.length_cons, Nat.lt_add_one]
  · have := (List.dropWhile_sublist (l := rest) isWordChar).length_le
    simp only [List.length_cons]
    omega

namespace Reading

/-- A member of an object as it was written. Its name is missing if a part of it is no character. -/
abbrev WrittenMember := Option String × Json

/-- A container that is still open: an array with its items, the last one first, or an object with the members
before the one that is being read, also the last one first, and the name of that one. -/
inductive Frame where
  | array (items : List Json)
  | object (members : List WrittenMember) (name : Option String)

/-- What may come next. -/
inductive Place where
  /-- A value. -/
  | value
  /-- The first item of an array, or its end. -/
  | itemOrEnd
  /-- The first name of an object, or its end. -/
  | nameOrEnd
  /-- The next name of an object. -/
  | name (members : List WrittenMember)
  /-- The colon after a name. -/
  | colon (members : List WrittenMember) (name : Option String)
  /-- Whatever follows a value. -/
  | after (j : Json)

/-- An object as it was written, unless a name is missing. -/
private def objectOf (members : List WrittenMember) : Json :=
  match members.mapM fun (name, j) => name.map (·, j) with
  | some members => Json.object members
  | none => unreadable

private def start (frames : List Frame) : Token → Option (Place × List Frame)
  | .text s => some (.after ((s.map Json.string).getD unreadable), frames)
  | .scalar j => some (.after j, frames)
  | .beginArray => some (.itemOrEnd, frames)
  | .beginObject => some (.nameOrEnd, frames)
  | _ => none

/-- The place and the open containers after one more token. -/
def step : Place × List Frame → Token → Option (Place × List Frame)
  | (.value, frames), token => start frames token
  | (.itemOrEnd, frames), .endArray => some (.after (Json.array []), frames)
  | (.itemOrEnd, frames), token => start (.array [] :: frames) token
  | (.nameOrEnd, frames), .endObject => some (.after (Json.object []), frames)
  | (.nameOrEnd, frames), .text name => some (.colon [] name, frames)
  | (.name members, frames), .text name => some (.colon members name, frames)
  | (.colon members name, frames), .colon => some (.value, .object members name :: frames)
  | (.after j, .array items :: frames), .comma => some (.value, .array (j :: items) :: frames)
  | (.after j, .array items :: frames), .endArray => some (.after (Json.array (j :: items).reverse), frames)
  | (.after j, .object members name :: frames), .comma => some (.name ((name, j) :: members), frames)
  | (.after j, .object members name :: frames), .endObject =>
    some (.after (objectOf ((name, j) :: members).reverse), frames)
  | _, _ => none

end Reading

/-- The document as it was written. -/
def ofWritten? (text : String) : Option Json := do
  match ← (← scan text.toList).foldlM Reading.step (.value, []) with
  | (.after j, []) => some j
  | _ => none

/-- The document of a text. -/
def ofText? (text : String) : Option Json := (ofWritten? text).bind settled?

end DocumentSearch.Json
