import Mathlib
import DocumentSearch.Proofs.Expr.Eval

/-!
# Arithmetic on integers

`Arithmetic.exact` is what an operation gives on integers of any size. Evaluation gives this integer or says why not,
but for sums, differences and products in which a 64-bit integer takes part: these are reduced modulo 2^64
(`eval_integers`).

Two 32-bit integers are computed with in 64 bits first. That nothing is lost there is a matter of size: no operation
on them leaves the integers below 2^63 in magnitude (`natAbs_exact_lt`).
-/

namespace DocumentSearch

namespace Arithmetic

/-- The operation on integers of any size. Quotients are cut off towards zero, and remainders have the sign of the
dividend. -/
def exact : Arithmetic → Int → Int → Int
  | add, m, n => m + n
  | subtract, m, n => m - n
  | multiply, m, n => m * n
  | divide, m, n => m.tdiv n
  | modulo, m, n => m.tmod n

/-- The second operand is a divisor. -/
def divides : Arithmetic → Bool
  | divide | modulo => true
  | add | subtract | multiply => false

/-- The results for integers of 32 bits fit into 64. -/
theorem natAbs_exact_lt (operation : Arithmetic) {m n : Int} (hm : m.natAbs ≤ 2 ^ 31) (hn : n.natAbs ≤ 2 ^ 31) :
    (operation.exact m n).natAbs < 2 ^ 63 := by
  cases operation with
  | add | subtract =>
    rw [exact]
    omega
  | multiply =>
    have hproduct : m.natAbs * n.natAbs ≤ 2 ^ 31 * 2 ^ 31 := Nat.mul_le_mul hm hn
    rw [exact, Int.natAbs_mul]
    omega
  | divide =>
    have hquotient := Int.natAbs_tdiv_le_natAbs m n
    rw [exact]
    omega
  | modulo =>
    have hremainder := Nat.mod_le m.natAbs n.natAbs
    rw [exact, Int.natAbs_tmod]
    omega

end Arithmetic

namespace Value

open Arithmetic

variable {a b : Value} {m n : Int64}

/-- Division by zero and the one quotient that does not fit are refused. All other divisions are exact, and the other
operations are exact modulo 2^64. -/
theorem applyIntegers_cases (operation : Arithmetic) (m n : Int64) :
    if operation.divides = true ∧ n = 0 then applyIntegers operation m n = .error .divisionByZero
    else if operation.divides = true ∧ m = Int64.minValue ∧ n = -1 then
      applyIntegers operation m n = .error (noQuotient operation m n)
    else ∃ k, applyIntegers operation m n = .ok k ∧
      k.toInt = if operation.divides = true then operation.exact m.toInt n.toInt
        else (operation.exact m.toInt n.toInt).bmod (2 ^ 64) := by
  cases operation with
  | add => exact ⟨_, rfl, Int64.toInt_add m n⟩
  | subtract => exact ⟨_, rfl, Int64.toInt_sub m n⟩
  | multiply => exact ⟨_, rfl, Int64.toInt_mul m n⟩
  | divide =>
    simp only [divides, true_and, applyIntegers, exact]
    split
    · rfl
    · split
      · rfl
      · rename_i hquotient
        refine ⟨_, rfl, ?_⟩
        rcases not_and_or.1 hquotient with hm | hn
        · exact Int64.toInt_div_of_ne_left m n hm
        · exact Int64.toInt_div_of_ne_right m n hn
  | modulo =>
    simp only [divides, true_and, applyIntegers, exact]
    split
    · rfl
    · split
      · rfl
      · exact ⟨_, rfl, Int64.toInt_mod m n⟩

/-- Integers of either width are computed with in 64 bits, and what came from two narrow ones is made narrow again. -/
theorem applyArithmetic_of_integer? (operation : Arithmetic) (hm : a.integer? = some m) (hn : b.integer? = some n) :
    applyArithmetic operation a b = applyIntegers operation m n >>= fun k =>
      if a.type = .int32 ∧ b.type = .int32 then (int64 k).converted .int32 else .ok (int64 k) := by
  cases a <;> cases hm <;> cases b <;> cases hn <;> cases operation <;> rfl

/-- An integer is made narrow if it fits. -/
theorem converted_int32 (k : Int64) :
    if Int32.minValue.toInt ≤ k.toInt ∧ k.toInt ≤ Int32.maxValue.toInt then
      ∃ k' : Int32, (int64 k).converted .int32 = .ok (int32 k') ∧ k'.toInt = k.toInt
    else (int64 k).converted .int32 = .error (.cast (.overflow (toString k.toInt) .int32)) := by
  split
  · rename_i hfits
    have hlt : k.toInt < 2 ^ 31 := Int.lt_of_le_of_lt hfits.2 (by decide)
    refine ⟨Int32.ofInt k.toInt, ?_, Int32.toInt_ofInt_of_le hfits.1 hlt⟩
    rw [converted, cast, castToInt32, if_pos hfits]
    rfl
  · rename_i hfits
    rw [converted, cast, castToInt32, if_neg hfits]
    rfl

private theorem natAbs_toInt_le (hm : a.integer? = some m) (ha : a.type = .int32) : m.toInt.natAbs ≤ 2 ^ 31 := by
  cases a with
  | int32 i =>
    cases hm
    have := i.le_toInt
    have := i.toInt_lt
    rw [Int32.toInt_toInt64]
    omega
  | null | bool | int64 | float | string | dateTime | array | object => cases ha

/-- Two narrow integers are computed with exactly. -/
private theorem exists_applyIntegers_eq_ok (operation : Arithmetic) (hm : m.toInt.natAbs ≤ 2 ^ 31)
    (hn : n.toInt.natAbs ≤ 2 ^ 31) (h : ¬ (operation.divides = true ∧ n = 0)) :
    ∃ k, applyIntegers operation m n = .ok k ∧ k.toInt = operation.exact m.toInt n.toInt := by
  have hmin : ¬ (operation.divides = true ∧ m = Int64.minValue ∧ n = -1) := by
    rintro ⟨-, rfl, -⟩
    rw [Int64.toInt_minValue] at hm
    omega
  have hcases := applyIntegers_cases operation m n
  rw [if_neg h, if_neg hmin] at hcases
  obtain ⟨k, hk, hexact⟩ := hcases
  refine ⟨k, hk, ?_⟩
  split at hexact
  · exact hexact
  · have hsize := operation.natAbs_exact_lt hm hn
    rw [hexact]
    exact Int.bmod_eq_of_le (by omega) (by omega)

/-- What two narrow integers give if nothing is divided by zero. -/
private theorem applyArithmetic_of_narrow (operation : Arithmetic) (hm : a.integer? = some m)
    (hn : b.integer? = some n) (ha : a.type = .int32) (hb : b.type = .int32)
    (hzero : ¬ (operation.divides = true ∧ n = 0)) :
    let exact := operation.exact m.toInt n.toInt
    if Int32.minValue.toInt ≤ exact ∧ exact ≤ Int32.maxValue.toInt then
      ∃ k : Int32, applyArithmetic operation a b = .ok (int32 k) ∧ k.toInt = exact
    else applyArithmetic operation a b = .error (.cast (.overflow (toString exact) .int32)) := by
  obtain ⟨k, hk, hexact⟩ := exists_applyIntegers_eq_ok operation (natAbs_toInt_le hm ha) (natAbs_toInt_le hn hb) hzero
  have hvalue : applyArithmetic operation a b = (int64 k).converted .int32 := by
    rw [applyArithmetic_of_integer? operation hm hn, hk]
    exact if_pos ⟨ha, hb⟩
  rw [hvalue, ← hexact]
  exact converted_int32 k

/-- What two integers of which one is wide give if nothing is divided by zero. -/
private theorem applyArithmetic_of_wide (operation : Arithmetic) (hm : a.integer? = some m)
    (hn : b.integer? = some n) (hwide : ¬ (a.type = .int32 ∧ b.type = .int32))
    (hzero : ¬ (operation.divides = true ∧ n = 0)) :
    let exact := operation.exact m.toInt n.toInt
    if operation.divides = true ∧ m = Int64.minValue ∧ n = -1 then
      applyArithmetic operation a b = .error (noQuotient operation m n)
    else ∃ k : Int64, applyArithmetic operation a b = .ok (int64 k) ∧
      k.toInt = if operation.divides = true then exact else exact.bmod (2 ^ 64) := by
  have hcases := applyIntegers_cases operation m n
  rw [if_neg hzero] at hcases
  rw [applyArithmetic_of_integer? operation hm hn]
  simp only [if_neg hwide]
  split at hcases
  · rename_i hmin
    rw [if_pos hmin, hcases]
    rfl
  · rename_i hmin
    obtain ⟨k, hk, hexact⟩ := hcases
    rw [if_neg hmin, hk]
    exact ⟨k, rfl, hexact⟩

end Value

namespace Expr

variable {scope : Scope} {left right : Expr} {a b : Value} {m n : Int64}

/-- The value of arithmetic on integers. Nothing can be divided by zero. Two 32-bit integers give the exact result as a
32-bit integer, or an overflow if it does not fit. If one of them has 64 bits, divisions are exact as well, save that
the quotient of the least integer by minus one is an overflow (for remainders too), and the other results are the
exact ones modulo 2^64. -/
theorem eval_integers (operation : Arithmetic) (ha : left.eval scope = .ok a) (hb : right.eval scope = .ok b)
    (hm : a.integer? = some m) (hn : b.integer? = some n) :
    let value := (binary left (.arithmetic operation) right).eval scope
    let exact := operation.exact m.toInt n.toInt
    if operation.divides = true ∧ n = 0 then value = .error .divisionByZero
    else if a.type = .int32 ∧ b.type = .int32 then
      if Int32.minValue.toInt ≤ exact ∧ exact ≤ Int32.maxValue.toInt then
        ∃ k : Int32, value = .ok (.int32 k) ∧ k.toInt = exact
      else value = .error (.cast (.overflow (toString exact) .int32))
    else if operation.divides = true ∧ m = Int64.minValue ∧ n = -1 then
      value = .error (.cast (.overflow s!"{m.toInt} {operation.name} {n.toInt}" .int64))
    else ∃ k : Int64, value = .ok (.int64 k) ∧
      k.toInt = if operation.divides = true then exact else exact.bmod (2 ^ 64) := by
  intro value exact
  have hvalue : value = Value.applyArithmetic operation a b := by
    simp only [value, eval, ha, hb]
    rfl
  rw [hvalue]
  split
  · rename_i hzero
    have hcases := Value.applyIntegers_cases operation m n
    rw [if_pos hzero] at hcases
    rw [Value.applyArithmetic_of_integer? operation hm hn, hcases]
    rfl
  · rename_i hzero
    split
    · rename_i hnarrow
      exact Value.applyArithmetic_of_narrow operation hm hn hnarrow.1 hnarrow.2 hzero
    · rename_i hwide
      exact Value.applyArithmetic_of_wide operation hm hn hwide hzero

/-- One more than the greatest 32-bit integer is an overflow, and one more than the greatest 64-bit integer is the
least one. -/
theorem eval_integers_successor :
    let one := constant (.int32 1)
    let narrow := constant (.int32 Int32.maxValue)
    let wide := constant (.int64 Int64.maxValue)
    one.eval Scope.empty = .ok (.int32 1) ∧ narrow.eval Scope.empty = .ok (.int32 Int32.maxValue) ∧
      wide.eval Scope.empty = .ok (.int64 Int64.maxValue) ∧ (Value.int32 1).integer? = some 1 ∧
      (Value.int32 Int32.maxValue).integer? = some Int32.maxValue.toInt64 ∧
      (Value.int64 Int64.maxValue).integer? = some Int64.maxValue ∧
      (binary narrow (.arithmetic .add) one).eval Scope.empty = .error (.cast (.overflow "2147483648" .int32)) ∧
      ∃ k : Int64, (binary wide (.arithmetic .add) one).eval Scope.empty = .ok (.int64 k) ∧ k.toInt = -2 ^ 63 := by
  intro one narrow wide
  have hone : one.eval Scope.empty = .ok (.int32 1) := by rw [eval]
  have hnarrow : narrow.eval Scope.empty = .ok (.int32 Int32.maxValue) := by rw [eval]
  have hwide : wide.eval Scope.empty = .ok (.int64 Int64.maxValue) := by rw [eval]
  exact ⟨hone, hnarrow, hwide, rfl, rfl, rfl, eval_integers .add hnarrow hone rfl rfl,
    eval_integers .add hwide hone rfl rfl⟩

end Expr

end DocumentSearch
