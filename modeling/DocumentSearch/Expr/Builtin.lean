import DocumentSearch.Expr.Basic
import DocumentSearch.Text.Case
import DocumentSearch.Text.Search

/-!
# Known methods

The methods that have a meaning of their own. All others can be written, but neither evaluated nor searched for.
-/

namespace DocumentSearch

/-- A method with a meaning. -/
inductive Builtin where
  | lower
  | upper
  | trim
  | startsWith
  | endsWith
  | contains
  /-- Equality of strings, with an optional mode. -/
  | equalsString
  | concat
  | isNullOrEmpty
  /-- Loose equality of values. -/
  | equals
  | text
  | abs
  | min
  | max
  | hasItem
  | count
  | matchesRegexp
  | hasPrefix
  | matchesWildcard
  | containsAny
  | containsAll
deriving DecidableEq, Repr

/-- The known methods by owner and name. -/
def builtins : List (Method × Builtin) :=
  [(⟨"to_lowercase", .string⟩, .lower),
   (⟨"to_uppercase", .string⟩, .upper),
   (⟨"trim", .string⟩, .trim),
   (⟨"starts_with", .string⟩, .startsWith),
   (⟨"ends_with", .string⟩, .endsWith),
   (⟨"contains", .string⟩, .contains),
   (⟨"equals", .string⟩, .equalsString),
   (⟨"concat", .string⟩, .concat),
   (⟨"is_null_or_empty", .string⟩, .isNullOrEmpty),
   (⟨"equals", .object⟩, .equals),
   (⟨"to_string", .object⟩, .text),
   (⟨"abs", .math⟩, .abs),
   (⟨"min", .math⟩, .min),
   (⟨"max", .math⟩, .max),
   (⟨"contains", .sequence⟩, .hasItem),
   (⟨"count", .sequence⟩, .count),
   (⟨"regexp", .search⟩, .matchesRegexp),
   (⟨"prefix", .search⟩, .hasPrefix),
   (⟨"wildcard", .search⟩, .matchesWildcard),
   (⟨"contains_any", .search⟩, .containsAny),
   (⟨"contains_all", .search⟩, .containsAll)]

/-- The meaning of a method. -/
def Method.builtin? (m : Method) : Option Builtin := builtins.lookup m

/-- A mode of comparison asks to disregard letter case. -/
def Value.ignoresCase : Value → Bool
  | string mode => Text.contains (Text.lower mode) "ignore_case"
  | _ => false

end DocumentSearch
