import DocumentSearch.Comparison
import DocumentSearch.Value.Compare

/-!
# Comparisons without floats

Rounding is all that keeps loose equality from being an equivalence: where no float takes part, a scalar is loosely
equal to exactly the values that are the same once integers are widened (`looselyEqual_iff_widened`), and exchanging
the operands reverses an order (`compare?_swap`).
-/

namespace DocumentSearch

theorem Comparison.holds_negate (c : Comparison) (o : Ordering) : c.negate.holds o = !c.holds o := by
  cases c <;> cases o <;> rfl

theorem Comparison.holds_flip (c : Comparison) (o : Ordering) : c.flip.holds o = c.holds o.swap := by
  cases c <;> cases o <;> rfl

instance : Std.OrientedOrd Instant :=
  inferInstanceAs (Std.OrientedCmp (compareLex (compareOn Instant.day)
    (compareLex (compareOn Instant.second) (compareOn Instant.nano))))

namespace Value

mutual

/-- There is no float in the value, at any depth. -/
def isFloatFree : Value → Bool
  | float _ => false
  | array items => itemsAreFloatFree items
  | object members => membersAreFloatFree members
  | null | bool _ | int32 _ | int64 _ | string _ | dateTime _ => true

/-- `isFloatFree` of all items. -/
def itemsAreFloatFree : List Value → Bool
  | [] => true
  | v :: rest => isFloatFree v && itemsAreFloatFree rest

/-- `isFloatFree` of the values of all members. -/
def membersAreFloatFree : List (String × Value) → Bool
  | [] => true
  | (_, v) :: rest => isFloatFree v && membersAreFloatFree rest

end

theorem itemsAreFloatFree_iff {items : List Value} :
    itemsAreFloatFree items = true ↔ ∀ v ∈ items, v.isFloatFree = true := by
  induction items with
  | nil => simp [itemsAreFloatFree]
  | cons v rest ih => simp [itemsAreFloatFree, ih]

/-- The value holds no other values. -/
def isScalar : Value → Bool
  | array _ | object _ => false
  | null | bool _ | int32 _ | int64 _ | float _ | string _ | dateTime _ => true

/-- An integer of either width as one of 64 bits; any other value as it is. -/
def widened : Value → Value
  | int32 n => int64 n.toInt64
  | v => v

/-! ### Loose equality -/

theorem beq_eq_same (a b : Value) : (a == b) = same a b := rfl

private theorem integer?_eq_some_iff {v : Value} {n : Int64} : v.integer? = some n ↔ v.widened = int64 n := by
  cases v <;> simp [integer?, widened]

/-- An integer is loosely equal to the same number in either width. -/
private theorem looselyEqual_of_integer? {a b : Value} {n : Int64} (ha : a.integer? = some n) (hb : b.isFloatFree) :
    a.looselyEqual b = true ↔ some n = b.integer? := by
  cases a <;> cases ha <;> cases b <;>
    simp_all [looselyEqual, looselyEqualScalars, integer?, number?, beq_eq_same, same, isFloatFree]

/-- What a scalar other than a float is loosely equal to. -/
theorem looselyEqual_iff_widened {a b : Value} (hscalar : a.isScalar) (ha : a.isFloatFree) (hb : b.isFloatFree) :
    a.looselyEqual b = true ↔ a.widened = b.widened := by
  cases hn : a.integer? with
  | some n =>
    rw [looselyEqual_of_integer? hn hb, integer?_eq_some_iff.1 hn, eq_comm, integer?_eq_some_iff, eq_comm]
  | none =>
    cases a <;> cases b <;>
      simp_all [looselyEqual, looselyEqualScalars, integer?, number?, beq_eq_same, same, isFloatFree, isScalar, widened]

theorem looselyEqual_scalar_right {a b : Value} (ha : a.isScalar) (hb : b.isScalar = false) :
    b.looselyEqual a = false := by
  cases b <;> cases hb <;> cases a <;>
    simp_all [looselyEqual, looselyEqualScalars, integer?, number?, beq_eq_same, same, isScalar]

private theorem isScalar_of_widened {a b : Value} (ha : a.isScalar) (h : a.widened = b.widened) : b.isScalar := by
  cases b <;> cases a <;> simp_all [isScalar, widened]

/-- Loose equality with such a scalar does not depend on the order. -/
theorem looselyEqual_comm {a b : Value} (hscalar : a.isScalar) (ha : a.isFloatFree) (hb : b.isFloatFree) :
    b.looselyEqual a = a.looselyEqual b := by
  rw [Bool.eq_iff_iff, looselyEqual_iff_widened hscalar ha hb]
  cases hs : b.isScalar with
  | true => rw [looselyEqual_iff_widened hs hb ha, eq_comm]
  | false =>
    rw [looselyEqual_scalar_right hscalar hs]
    simp only [Bool.false_eq_true, false_iff]
    intro h
    simp [isScalar_of_widened hscalar h] at hs

/-- Loosely equal values are loosely equal to the same scalars. -/
theorem looselyEqual_congr {a v w : Value} (hscalar : a.isScalar) (ha : a.isFloatFree) (hv : v.isFloatFree)
    (hw : w.isFloatFree) (h : v.looselyEqual w) : a.looselyEqual v = a.looselyEqual w := by
  rw [Bool.eq_iff_iff, looselyEqual_iff_widened hscalar ha hv, looselyEqual_iff_widened hscalar ha hw]
  constructor
  · intro heq
    exact heq.trans ((looselyEqual_iff_widened (isScalar_of_widened hscalar heq) hv hw).1 h)
  · intro heq
    have hws := isScalar_of_widened hscalar heq
    rw [looselyEqual_comm hws hw hv, looselyEqual_iff_widened hws hw hv] at h
    exact heq.trans h

theorem looselyEqual_string {v : Value} {s : String} : v.looselyEqual (string s) = true ↔ v = string s := by
  cases v <;> simp [looselyEqual, looselyEqualScalars, integer?, number?, beq_eq_same, same]

theorem string_looselyEqual {v : Value} {s : String} : (string s).looselyEqual v = true ↔ string s = v := by
  cases v <;> simp [looselyEqual, looselyEqualScalars, integer?, number?, beq_eq_same, same]

/-- Loosely equal values are loosely equal to the same texts. -/
theorem looselyEqual_string_congr {v w : Value} (h : v.looselyEqual w = true) (s : String) :
    v.looselyEqual (string s) = w.looselyEqual (string s) := by
  rw [Bool.eq_iff_iff, looselyEqual_string, looselyEqual_string]
  constructor
  · rintro rfl
    exact (string_looselyEqual.1 h).symm
  · rintro rfl
    exact looselyEqual_string.1 h

theorem looselyEqual_null (v : Value) : v.looselyEqual null = v.isNull := by
  cases v <;> rfl

theorem bool_looselyEqual (a b : Bool) : (bool a).looselyEqual (bool b) = (a == b) := rfl

/-! ### Order -/

/-- Exchanging the operands reverses their order. -/
theorem compare?_swap {a b : Value} (ha : a.isFloatFree) (hb : b.isFloatFree) :
    b.compare? a = (a.compare? b).map Ordering.swap := by
  cases a <;> cases b <;>
    simp_all [compare?, integer?, number?, isFloatFree, ← Std.OrientedCmp.eq_swap]

/-- Null has no order. -/
theorem isNull_of_compare? {a b : Value} {o : Ordering} (h : a.compare? b = some o) :
    a.isNull = false ∧ b.isNull = false := by
  cases a <;> cases b <;> first | exact ⟨rfl, rfl⟩ | cases h

end Value

end DocumentSearch
