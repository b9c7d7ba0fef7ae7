/-!
# Order comparisons

The four comparisons by order, used in expressions and in range criteria alike.
-/

namespace DocumentSearch

/-- A comparison of two values by their order. -/
inductive Comparison where
  | less
  | lessOrEqual
  | greater
  | greaterOrEqual
deriving DecidableEq, Repr

namespace Comparison

/-- The comparison that holds of exactly the pairs of which this one does not. -/
def negate : Comparison → Comparison
  | less => greaterOrEqual
  | lessOrEqual => greater
  | greater => lessOrEqual
  | greaterOrEqual => less

/-- The comparison that says the same of the operands in the other order. -/
def flip : Comparison → Comparison
  | less => greater
  | lessOrEqual => greaterOrEqual
  | greater => less
  | greaterOrEqual => lessOrEqual

/-- The comparison holds of two values in this order. -/
def holds : Comparison → Ordering → Bool
  | less, o => o == .lt
  | lessOrEqual, o => o != .gt
  | greater, o => o == .gt
  | greaterOrEqual, o => o != .lt

/-- The name of the comparison in a search request. -/
def wireName : Comparison → String
  | less => "lt"
  | lessOrEqual => "lte"
  | greater => "gt"
  | greaterOrEqual => "gte"

end Comparison

end DocumentSearch
