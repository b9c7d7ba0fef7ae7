import DocumentSearch.Expr.Basic

/-!
# Building expressions

Short names for the expressions that are written most often.
-/

namespace DocumentSearch.Expr

/-- The constant null. -/
def null : Expr := constant .null

/-- A member declared on the record type of the target. -/
def field (target : Expr) (name : String) (type : ValueType) : Expr :=
  member target ⟨name, .named (target.type.recordName?.getD ""), type⟩

/-- The test whether an optional value is there. -/
def hasValue (target : Expr) : Expr := member target ⟨"has_value", .nullable, .bool⟩

/-- The value of an optional value. -/
def value (target : Expr) : Expr := member target ⟨"value", .nullable, target.type.withoutNull⟩

/-- The number of characters of a string. -/
def length (target : Expr) : Expr := member target ⟨"len", .string, .int32⟩

/-- The identifier of a document. -/
def documentId : Expr := staticMember ⟨"id", .reserved, .string⟩

/-- The score of a document. -/
def documentScore : Expr := staticMember ⟨"score", .reserved, .float⟩

/-! ### Operators -/

def equal (a b : Expr) : Expr := binary a .equal b

def notEqual (a b : Expr) : Expr := binary a .notEqual b

def less (a b : Expr) : Expr := binary a (.compare .less) b

def lessOrEqual (a b : Expr) : Expr := binary a (.compare .lessOrEqual) b

def greater (a b : Expr) : Expr := binary a (.compare .greater) b

def greaterOrEqual (a b : Expr) : Expr := binary a (.compare .greaterOrEqual) b

def and (a b : Expr) : Expr := binary a .and b

def or (a b : Expr) : Expr := binary a .or b

def add (a b : Expr) : Expr := binary a (.arithmetic .add) b

def not (a : Expr) : Expr := unary .not a

def negate (a : Expr) : Expr := unary .negate a

/-! ### Methods -/

/-- Equality asked of the left operand. -/
def equals (a b : Expr) : Expr := call a ⟨"equals", .object⟩ [b]

/-- Equality asked of a string, in a mode such as `ignore_case`. -/
def equalsWith (a b : Expr) (mode : String) : Expr := call a ⟨"equals", .string⟩ [b, constant (.string mode)]

/-- Equality asked of neither operand. -/
def staticEquals (a b : Expr) : Expr := staticCall ⟨"equals", .object⟩ [a, b]

def startsWith (s start : Expr) : Expr := call s ⟨"starts_with", .string⟩ [start]

def endsWith (s tail : Expr) : Expr := call s ⟨"ends_with", .string⟩ [tail]

def contains (s needle : Expr) : Expr := call s ⟨"contains", .string⟩ [needle]

/-- The test whether a sequence has an item. -/
def hasItem (items item : Expr) : Expr := call items ⟨"contains", .sequence⟩ [item]

def lower (s : Expr) : Expr := call s ⟨"to_lowercase", .string⟩ []

def upper (s : Expr) : Expr := call s ⟨"to_uppercase", .string⟩ []

/-! ### Search tests -/

def matchesRegexp (field pattern : Expr) : Expr := staticCall ⟨"regexp", .search⟩ [field, pattern]

def hasPrefix (field start : Expr) : Expr := staticCall ⟨"prefix", .search⟩ [field, start]

def matchesWildcard (field pattern : Expr) : Expr := staticCall ⟨"wildcard", .search⟩ [field, pattern]

def containsAny (field values : Expr) : Expr := staticCall ⟨"contains_any", .search⟩ [field, values]

def containsAll (field values : Expr) : Expr := staticCall ⟨"contains_all", .search⟩ [field, values]

/-! ### Records -/

/-- A record whose members are named `item1`, `item2` and so on. -/
def tuple (items : List Expr) : Expr :=
  record "tuple" (items.zipIdx.map fun (e, i) => (s!"item{i + 1}", e))

end DocumentSearch.Expr
