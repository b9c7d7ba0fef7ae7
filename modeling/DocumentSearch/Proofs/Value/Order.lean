import DocumentSearch.Proofs.Value.LooseEquality

/-!
# Loose equality and order

Among values without floats loose equality is an equivalence, and the order of values fits it: neither tells loosely
equal values apart (`looselyEqual_compare?_laws`).

Two such values have an order only if both are strings, truth values, instants or integers, and then that of these
(`compare?_eq_some_iff`). The laws of the order are those of these four families.
-/

namespace DocumentSearch

instance : Std.TransOrd Instant :=
  inferInstanceAs (Std.TransCmp (compareLex (compareOn Instant.day)
    (compareLex (compareOn Instant.second) (compareOn Instant.nano))))

instance : Std.LawfulEqOrd Instant where
  eq_of_compare := by
    rintro ⟨day, second, nano⟩ ⟨day', second', nano'⟩ h
    obtain ⟨hday, hrest⟩ := compareLex_eq_eq.1 h
    obtain ⟨hsecond, hnano⟩ := compareLex_eq_eq.1 hrest
    have hday : day = day' := Std.compare_eq_iff_eq.1 hday
    have hsecond : second = second' := Std.compare_eq_iff_eq.1 hsecond
    have hnano : nano = nano' := Std.compare_eq_iff_eq.1 hnano
    rw [hday, hsecond, hnano]

/-! ### Chains of comparisons -/

/-- Two comparisons the same way make a third one, which is strict if one of them is. -/
private theorem compare_eq_then {α : Type} [Ord α] [Std.TransOrd α] {a b c : α}
    (h : (compare a b).isLE ∧ (compare b c).isLE ∨ (compare a b).isGE ∧ (compare b c).isGE) :
    compare a c = (compare a b).then (compare b c) := by
  cases hab : compare a b with
  | eq => exact Std.TransCmp.congr_left hab
  | lt =>
    cases hbc : compare b c with
    | eq => rw [← Std.TransCmp.congr_right hbc, hab]; rfl
    | lt => exact Std.TransCmp.lt_trans hab hbc
    | gt => simp [hab, hbc] at h
  | gt =>
    cases hbc : compare b c with
    | eq => rw [← Std.TransCmp.congr_right hbc, hab]; rfl
    | lt => simp [hab, hbc] at h
    | gt => exact Std.TransCmp.gt_trans hab hbc

namespace Value

/-! ### Families -/

/-- Two values of one family, with their order. -/
inductive Ordered : Value → Value → Ordering → Prop where
  | string (s t : String) : Ordered (string s) (string t) (compare s t)
  | bool (p q : Bool) : Ordered (bool p) (bool q) (compare p q)
  | dateTime (s t : Instant) : Ordered (dateTime s) (dateTime t) (compare s t)
  | integer {a b : Value} {m n : Int64} : a.integer? = some m → b.integer? = some n → Ordered a b (compare m n)

/-- The only numbers of a value without floats are integers. -/
private theorem exists_integer?_of_number? {v : Value} {x : Float} (hfree : v.isFloatFree = true)
    (h : v.number? = some x) : ∃ n, v.integer? = some n := by
  cases v with
  | int32 n => exact ⟨n.toInt64, rfl⟩
  | int64 n => exact ⟨n, rfl⟩
  | float => cases hfree
  | null | bool | string | dateTime | array | object => cases h

theorem compare?_eq_some_iff {a b : Value} (ha : a.isFloatFree = true) (hb : b.isFloatFree = true) {o : Ordering} :
    a.compare? b = some o ↔ Ordered a b o := by
  constructor
  · intro h
    unfold compare? at h
    split at h
    · cases h
      exact .string _ _
    · cases h
      exact .bool _ _
    · cases h
      exact .dateTime _ _
    · split at h
      · cases h
        exact .integer ‹_› ‹_›
      · rename_i hnone
        -- numbers would be integers
        obtain ⟨x, hx, h⟩ := Option.bind_eq_some_iff.1 h
        obtain ⟨y, hy, -⟩ := Option.bind_eq_some_iff.1 h
        obtain ⟨m, hm⟩ := exists_integer?_of_number? ha hx
        obtain ⟨n, hn⟩ := exists_integer?_of_number? hb hy
        exact absurd hn (hnone m n hm)
  · rintro (⟨s, t⟩ | ⟨p, q⟩ | ⟨s, t⟩ | ⟨hm, hn⟩)
    · rfl
    · rfl
    · rfl
    · cases a <;> cases hm <;> cases b <;> cases hn <;> rfl

/-- Values of one family are equal in their order exactly if they are loosely equal. -/
theorem Ordered.eq_iff {a b : Value} {o : Ordering} (h : Ordered a b o) : o = .eq ↔ a.looselyEqual b = true := by
  cases h with
  | string s t => rw [Std.compare_eq_iff_eq, string_looselyEqual, string.injEq]
  | bool p q => rw [Std.compare_eq_iff_eq, bool_looselyEqual, beq_iff_eq]
  | dateTime s t =>
    have hequal : (Value.dateTime s).looselyEqual (.dateTime t) = (s == t) := rfl
    rw [Std.compare_eq_iff_eq, hequal, beq_iff_eq]
  | @integer _ _ m n hm hn =>
    have hequal : a.looselyEqual b = (m == n) := by
      cases a <;> cases hm <;> cases b <;> cases hn <;> rfl
    rw [Std.compare_eq_iff_eq, hequal, beq_iff_eq]

/-- Of three values in a chain all belong to one family. -/
theorem Ordered.trans {a b c : Value} {o p : Ordering} (hab : Ordered a b o) (hbc : Ordered b c p) :
    ∃ r, Ordered a c r ∧ (o.isLE ∧ p.isLE ∨ o.isGE ∧ p.isGE → r = o.then p) := by
  cases hab with
  | string s t =>
    cases hbc with
    | string _ u => exact ⟨_, .string s u, compare_eq_then⟩
    | integer hb => cases hb
  | bool p q =>
    cases hbc with
    | bool _ r => exact ⟨_, .bool p r, compare_eq_then⟩
    | integer hb => cases hb
  | dateTime s t =>
    cases hbc with
    | dateTime _ u => exact ⟨_, .dateTime s u, compare_eq_then⟩
    | integer hb => cases hb
  | integer ha hb =>
    cases hbc with
    | string | bool | dateTime => cases hb
    | integer hb' hc =>
      cases hb.symm.trans hb'
      exact ⟨_, .integer ha hc, compare_eq_then⟩

/-! ### Widths -/

/-- The order of integers does not depend on their widths. -/
private theorem compare?_widened (a c : Value) :
    a.widened.compare? c = a.compare? c ∧ c.compare? a.widened = c.compare? a := by
  cases a with
  | int32 n => cases c <;> simp [widened, compare?, integer?, number?]
  | null | bool | int64 | float | string | dateTime | array | object => exact ⟨rfl, rfl⟩

private theorem compare?_of_isScalar_eq_false {a : Value} (ha : a.isScalar = false) (c : Value) :
    a.compare? c = none ∧ c.compare? a = none := by
  cases a <;> cases ha <;> cases c <;> exact ⟨rfl, rfl⟩

/-- Loosely equal values have the same order with every third value. -/
theorem compare?_congr {a b : Value} (ha : a.isFloatFree = true) (hb : b.isFloatFree = true)
    (h : a.looselyEqual b = true) (c : Value) : a.compare? c = b.compare? c ∧ c.compare? a = c.compare? b := by
  cases hscalar : a.isScalar with
  | true =>
    have hwidened : a.widened = b.widened := (looselyEqual_iff_widened hscalar ha hb).1 h
    rw [← (compare?_widened a c).1, ← (compare?_widened a c).2, hwidened, (compare?_widened b c).1,
      (compare?_widened b c).2]
    exact ⟨rfl, rfl⟩
  | false =>
    have hb' : b.isScalar = false := by
      by_contra hb'
      rw [looselyEqual_scalar_right (Bool.eq_true_of_not_eq_false hb') hscalar] at h
      cases h
    rw [(compare?_of_isScalar_eq_false hscalar c).1, (compare?_of_isScalar_eq_false hscalar c).2,
      (compare?_of_isScalar_eq_false hb' c).1, (compare?_of_isScalar_eq_false hb' c).2]
    exact ⟨rfl, rfl⟩

/-! ### Values without floats -/

/-- A value without floats, in which no object has two members of one name. -/
structure Exact where
  value : Value
  isFloatFree : value.isFloatFree = true
  distinct : value.Distinct

namespace Exact

/-- Loose equality without floats is an equivalence. -/
theorem equivalence : Equivalence fun a b : Exact => a.value.looselyEqual b.value = true where
  refl a := looselyEqual_refl a.isFloatFree a.distinct
  symm {a _} h := looselyEqual_symm a.distinct h
  trans {_ b _} hab hbc := looselyEqual_trans (sharp_of_isFloatFree b.isFloatFree) hab hbc

/-- The members of an object may stand in any order. -/
theorem looselyEqual_of_perm {a b : Exact} {as bs : Members Value} (ha : a.value = object as) (hb : b.value = object bs)
    (h : as.Perm bs) : a.value.looselyEqual b.value = true := by
  have hfree := a.isFloatFree
  have hdistinct := a.distinct
  rw [ha] at hfree hdistinct
  rw [ha, hb]
  exact same_of_perm hfree hdistinct h

/-- Values are equal in their order exactly if they have one and are loosely equal. -/
theorem compare?_eq_iff (a b : Exact) : a.value.compare? b.value = some .eq ↔
    (a.value.compare? b.value).isSome ∧ a.value.looselyEqual b.value = true := by
  cases h : a.value.compare? b.value with
  | none => simp
  | some o =>
    have hordered := (compare?_eq_some_iff a.isFloatFree b.isFloatFree).1 h
    rw [Option.some.injEq, hordered.eq_iff]
    simp

theorem compare?_trans {a b c : Exact} {o p : Ordering} (hab : a.value.compare? b.value = some o)
    (hbc : b.value.compare? c.value = some p) :
    ∃ r, a.value.compare? c.value = some r ∧ (o.isLE ∧ p.isLE ∨ o.isGE ∧ p.isGE → r = o.then p) := by
  have hab := (compare?_eq_some_iff a.isFloatFree b.isFloatFree).1 hab
  have hbc := (compare?_eq_some_iff b.isFloatFree c.isFloatFree).1 hbc
  obtain ⟨r, hac, hr⟩ := hab.trans hbc
  exact ⟨r, (compare?_eq_some_iff a.isFloatFree c.isFloatFree).2 hac, hr⟩

end Exact

/-- Without floats, loose equality is an equivalence across widths, within arrays and without regard to the order of
members. Exchanging two values reverses their order, they are equal in it exactly if they have one and are loosely
equal, loosely equal values stand in the same order to every third one, and of a chain the first and the last value
have an order, that of the chain if both steps lead the same way. -/
theorem looselyEqual_compare?_laws :
    Equivalence (fun a b : Exact => a.value.looselyEqual b.value = true) ∧
    (∀ n : Int32, (int32 n).looselyEqual (int64 n.toInt64) = true) ∧
    (∀ as bs : List Value, (array as).looselyEqual (array bs) = true ↔
      List.Forall₂ (fun a b => a.looselyEqual b = true) as bs) ∧
    (∀ (a b : Exact) (as bs : Members Value), a.value = object as → b.value = object bs → as.Perm bs →
      a.value.looselyEqual b.value = true) ∧
    ∀ a b c : Exact,
      b.value.compare? a.value = (a.value.compare? b.value).map .swap ∧
      (a.value.compare? b.value = some .eq ↔
        (a.value.compare? b.value).isSome ∧ a.value.looselyEqual b.value = true) ∧
      (a.value.looselyEqual b.value = true → ∀ v : Value,
        a.value.compare? v = b.value.compare? v ∧ v.compare? a.value = v.compare? b.value) ∧
      ∀ o p, a.value.compare? b.value = some o → b.value.compare? c.value = some p →
        ∃ r, a.value.compare? c.value = some r ∧ (o.isLE ∧ p.isLE ∨ o.isGE ∧ p.isGE → r = o.then p) := by
  refine ⟨Exact.equivalence, ?_, fun _ _ => looselyEqualItems_iff, ?_, fun a b c => ⟨?_, ?_, ?_, ?_⟩⟩
  · intro n
    exact (looselyEqual_iff_widened rfl rfl rfl).2 rfl
  · intro a b as bs ha hb h
    exact Exact.looselyEqual_of_perm ha hb h
  · exact compare?_swap a.isFloatFree b.isFloatFree
  · exact Exact.compare?_eq_iff a b
  · intro h v
    exact compare?_congr a.isFloatFree b.isFloatFree h v
  · intro o p hab hbc
    exact Exact.compare?_trans hab hbc

/-- Three in both widths, less than five, and two objects with the same members. -/
theorem looselyEqual_compare?_laws_three :
    (int32 3).looselyEqual (int64 3) = true ∧ (int32 3).compare? (int64 5) = (int64 3).compare? (int64 5) ∧
    (object [("a", null), ("b", int32 3)]).looselyEqual (object [("b", int32 3), ("a", null)]) = true := by
  obtain ⟨-, hwidths, -, hperm, horder⟩ := looselyEqual_compare?_laws
  let narrow : Exact := ⟨int32 3, rfl, trivial⟩
  let wide : Exact := ⟨int64 3, rfl, trivial⟩
  let five : Exact := ⟨int64 5, rfl, trivial⟩
  let left : Exact := ⟨object [("a", null), ("b", int32 3)], rfl, by decide, trivial, trivial, trivial⟩
  let right : Exact := ⟨object [("b", int32 3), ("a", null)], rfl, by decide, trivial, trivial, trivial⟩
  have hequal : narrow.value.looselyEqual wide.value = true := hwidths 3
  refine ⟨hequal, ((horder narrow wide five).2.2.1 hequal five.value).1, ?_⟩
  exact hperm left right _ _ rfl rfl (.swap _ _ [])

end Value

end DocumentSearch
