import Mathlib
import DocumentSearch.Value.Cast

/-!
# Floats as integers

The number that a float stands for is read off its unpacked form (`exactNumber?`), and `Binary.ofFloat` reads the same
from the bits (`number?_ofFloat`). With it a cast to an integer is a matter of rational numbers: between two bounds the
fraction is dropped, and nothing else is an integer (`integerWithin?_eq`).

The bounds of `int64` are one too wide. The greatest 64-bit integer is no float, and 2^63 takes its place
(`cast_float`).
-/

namespace DocumentSearch

open Float.Model (Format UnpackedFloat)
open Float.Model.UnpackedFloat

/-- The number that an unpacked float stands for, if it stands for one. -/
def numberOf? : UnpackedFloat → Option ℚ
  | .zero _ => some 0
  | .finite s m e _ => some (s.apply m * 2 ^ e)
  | .infinity _ | .notANumber => none

/-- The number that a float stands for, if it stands for one. -/
def exactNumber? (x : Float) : Option ℚ := numberOf? x.toModel.unpack

/-- The number without its fraction: the next integer in the direction of zero. -/
def towardsZero (r : ℚ) : ℤ := if 0 ≤ r then ⌊r⌋ else ⌈r⌉

theorem towardsZero_intCast (n : ℤ) : towardsZero n = n := by
  unfold towardsZero
  split
  · exact Int.floor_intCast n
  · exact Int.ceil_intCast n

theorem towardsZero_two_pow (k : ℕ) : towardsZero (2 ^ k) = 2 ^ k := by
  rw [show (2 ^ k : ℚ) = (2 ^ k : ℤ) by norm_cast, towardsZero_intCast]

theorem towardsZero_neg (r : ℚ) : towardsZero (-r) = -towardsZero r := by
  unfold towardsZero
  rcases lt_trichotomy r 0 with hr | rfl | hr
  · rw [if_pos (by linarith), if_neg (by linarith), Int.floor_neg]
  · simp
  · rw [if_neg (by linarith), if_pos hr.le, Int.ceil_neg]

namespace Binary

/-- The number that was read, if it is one. -/
def number? : Binary → Option ℚ
  | finite negative m q => some ((if negative then -(m : ℤ) else m : ℤ) * 2 ^ q)
  | nan | infinite _ => none

/-! ### The parts of a float -/

private theorem toNat_unpackMantissa (x : Float) :
    (@unpackMantissa Format.binary64 x.toModel.toBits.toBitVec).toNat = x.toBits.toNat % leadingBit := by
  rw [unpackMantissa, BitVec.toNat_cast, BitVec.extractLsb_toNat]
  rfl

private theorem toNat_unpackExponent (x : Float) :
    (@unpackExponent Format.binary64 x.toModel.toBits.toBitVec).toNat = (x.toBits.toNat >>> 52) % 2048 := by
  rw [unpackExponent, BitVec.toNat_cast, BitVec.extractLsb_toNat]
  rfl

private theorem ofBitVec_unpackSign (x : Float) :
    Sign.ofBitVec (@unpackSign Format.binary64 x.toModel.toBits.toBitVec) =
      if x.toBits.toNat >>> 63 == 1 then .negative else .positive := by
  have hlt : x.toBits.toNat >>> 63 < 2 := by
    have := x.toBits.toNat_lt
    rw [Nat.shiftRight_eq_div_pow]
    omega
  have hsign : (@unpackSign Format.binary64 x.toModel.toBits.toBitVec).toNat = x.toBits.toNat >>> 63 := by
    rw [unpackSign, BitVec.toNat_cast, BitVec.extractLsb_toNat]
    exact Nat.mod_eq_of_lt hlt
  simp only [Sign.ofBitVec, BitVec.toNat_eq, hsign]
  generalize x.toBits.toNat >>> 63 = n at hlt
  interval_cases n <;> rfl

private theorem toNat_one_append {m : BitVec 52} : (1#1 ++ m).toNat = leadingBit + m.toNat := by
  rw [BitVec.toNat_append, ← Nat.shiftLeft_add_eq_or_of_lt m.isLt]
  rfl

/-- The bits of a float are read as the number that it stands for. -/
theorem number?_ofFloat (x : Float) : (ofFloat x).number? = exactNumber? x := by
  have hmantissa := toNat_unpackMantissa x
  have hexponent := toNat_unpackExponent x
  have happly (m : ℕ) : (Sign.ofBitVec (@unpackSign Format.binary64 x.toModel.toBits.toBitVec)).apply m =
      if x.toBits.toNat >>> 63 == 1 then -(m : ℤ) else m := by
    rw [ofBitVec_unpackSign]
    split <;> rfl
  have hlast : (-BitVec.ofNat Format.binary64.exponentBits 1).toNat = 2047 := rfl
  have hfirst : (BitVec.ofNat Format.binary64.exponentBits 0).toNat = 0 := rfl
  have hnone : (BitVec.ofNat Format.binary64.mantissaBitsWithoutImplicit 0).toNat = 0 := rfl
  have hbias : (Format.binary64.exponentBias : ℤ) = 1023 := rfl
  rw [exactNumber?, Float.Model.unpack, unpack, ofFloat]
  simp only [BitVec.toNat_eq, hexponent, hmantissa, hlast, hfirst, hnone, hbias]
  split
  · split <;> rfl
  · split
    · rename_i hsubnormal
      split
      · rename_i hzero
        simp [number?, numberOf?, hzero]
      · simp only [number?, numberOf?, happly, hsubnormal]
        norm_num
    · simp only [number?, numberOf?, toNat_one_append, happly, hmantissa]
      norm_num

/-! ### Bounds and fractions -/

private theorem two_zpow_of_nonneg {q : ℤ} (hq : 0 ≤ q) : (2 : ℚ) ^ q = ((2 ^ q.toNat : ℕ) : ℚ) := by
  obtain ⟨k, rfl⟩ := Int.eq_ofNat_of_zero_le hq
  rw [zpow_natCast, Int.toNat_natCast]
  push_cast
  rfl

private theorem two_zpow_of_neg {q : ℤ} (hq : ¬ 0 ≤ q) : (2 : ℚ) ^ q = ((2 ^ (-q).toNat : ℕ) : ℚ)⁻¹ := by
  rw [← two_zpow_of_nonneg (by omega), ← zpow_neg, Int.neg_neg]

/-- A number lies between two integers just as its exact value does. -/
theorem between_iff (lo hi : ℤ) (b : Binary) :
    b.between lo hi = true ↔ ∃ r, b.number? = some r ∧ lo ≤ r ∧ r ≤ hi := by
  cases b with
  | nan | infinite _ => simp [between, number?]
  | finite negative m q =>
    simp only [between, number?, Option.some.injEq, exists_eq_left']
    generalize (if negative then -(m : ℤ) else m : ℤ) = v
    split
    · rename_i hq
      have hscale : ((1 <<< q.natAbs : ℕ) : ℤ) = 2 ^ q.toNat := by
        rw [Nat.shiftLeft_eq, one_mul, show q.natAbs = q.toNat by omega]
        push_cast
        rfl
      rw [hscale, two_zpow_of_nonneg hq, Bool.and_eq_true, decide_eq_true_eq, decide_eq_true_eq]
      norm_cast
    · rename_i hq
      have hscale : ((1 <<< q.natAbs : ℕ) : ℤ) = 2 ^ (-q).toNat := by
        rw [Nat.shiftLeft_eq, one_mul, show q.natAbs = (-q).toNat by omega]
        push_cast
        rfl
      have hpos : (0 : ℚ) < ((2 ^ (-q).toNat : ℕ) : ℚ) := by positivity
      rw [hscale, two_zpow_of_neg hq, Bool.and_eq_true, decide_eq_true_eq, decide_eq_true_eq, ← div_eq_mul_inv,
        le_div_iff₀ hpos, div_le_iff₀ hpos]
      norm_cast

/-- Shifting drops the fraction. -/
theorem truncated_eq (negative : Bool) (m : ℕ) (q : ℤ) :
    truncated negative m q = towardsZero ((if negative then -(m : ℤ) else m : ℤ) * 2 ^ q) := by
  have hmagnitude : ((if 0 ≤ q then m <<< q.toNat else m >>> (-q).toNat : ℕ) : ℤ) = towardsZero (m * 2 ^ q) := by
    have hnonneg : (0 : ℚ) ≤ m * 2 ^ q := by positivity
    rw [towardsZero, if_pos hnonneg]
    split
    · rename_i hq
      rw [two_zpow_of_nonneg hq, Nat.shiftLeft_eq]
      norm_cast
    · rename_i hq
      rw [two_zpow_of_neg hq, Nat.shiftRight_eq_div_pow, ← div_eq_mul_inv, ← @Int.cast_natCast ℚ _ m,
        Rat.floor_intCast_div_natCast]
      norm_cast
  cases negative with
  | false => exact hmagnitude
  | true =>
    rw [truncated, if_pos rfl, hmagnitude, ← towardsZero_neg]
    simp

end Binary

/-! ### Casts -/

private theorem le_towardsZero {lo : ℤ} {r : ℚ} (h : lo ≤ r) : lo ≤ towardsZero r := by
  unfold towardsZero
  split
  · exact Int.le_floor.2 h
  · have hceil : (lo : ℚ) ≤ ⌈r⌉ := h.trans (Int.le_ceil r)
    exact_mod_cast hceil

private theorem towardsZero_lt {hi : ℤ} {r : ℚ} (h : r < hi) (hhi : 0 < hi) : towardsZero r < hi := by
  unfold towardsZero
  split
  · exact Int.floor_lt.2 h
  · rename_i hr
    have hceil : ⌈r⌉ ≤ 0 := Int.ceil_le.2 (by push_cast; linarith)
    omega

namespace Value

variable {lo hi : ℤ} {x : Float} {r : ℚ}

/-- Between two bounds a float is taken for its number without the fraction. -/
theorem integerWithin?_eq (lo hi : ℤ) (x : Float) :
    integerWithin? lo hi x = ((exactNumber? x).filter fun r => (lo : ℚ) ≤ r ∧ r ≤ hi).map towardsZero := by
  have hbetween := Binary.between_iff lo hi (Binary.ofFloat x)
  rw [← Binary.number?_ofFloat, integerWithin?]
  simp only [hbetween]
  cases Binary.ofFloat x with
  | nan | infinite _ => rfl
  | finite negative m q =>
    simp only [Binary.number?, Option.some.injEq, exists_eq_left', Option.filter_some, decide_eq_true_eq,
      Binary.truncate?, Binary.truncated_eq]
    rw [apply_ite (Option.map towardsZero)]
    rfl

theorem integerWithin?_of_le (h : exactNumber? x = some r) (hlo : lo ≤ r) (hhi : r ≤ hi) :
    integerWithin? lo hi x = some (towardsZero r) := by
  rw [integerWithin?_eq, h, Option.filter_some, if_pos (decide_eq_true ⟨hlo, hhi⟩)]
  rfl

theorem integerWithin?_eq_none (h : ∀ r, exactNumber? x = some r → ¬ (lo ≤ r ∧ r ≤ hi)) :
    integerWithin? lo hi x = none := by
  rw [integerWithin?_eq, Option.map_eq_none_iff, Option.filter_eq_none_iff]
  intro r hr
  rw [decide_eq_true_eq]
  exact h r hr

theorem exists_castToInt32_float (h : exactNumber? x = some r) (hlo : -2 ^ 31 ≤ r) (hhi : r ≤ 2 ^ 31 - 1) :
    ∃ n : Int32, (float x).cast .int32 = .ok (int32 n) ∧ n.toInt = towardsZero r := by
  have hfound : integerWithin? Int32.minValue.toInt Int32.maxValue.toInt x = some (towardsZero r) := by
    refine integerWithin?_of_le h ?_ ?_
    · rw [Int32.toInt_minValue]
      exact_mod_cast hlo
    · rw [Int32.toInt_maxValue]
      exact_mod_cast hhi
  have hlo' : -2 ^ 31 ≤ towardsZero r := le_towardsZero (by exact_mod_cast hlo)
  have hhi' : towardsZero r < 2 ^ 31 := towardsZero_lt (by push_cast; linarith) (by decide)
  refine ⟨Int32.ofInt (towardsZero r), ?_, Int32.toInt_ofInt_of_le hlo' hhi'⟩
  rw [cast, castToInt32, hfound]

theorem castToInt32_float_eq_error (h : ∀ r, exactNumber? x = some r → ¬ (-2 ^ 31 ≤ r ∧ r ≤ 2 ^ 31 - 1)) :
    (float x).cast .int32 = .error (.overflow (Decimal.Layout.plain.text x) .int32) := by
  have hnone : integerWithin? Int32.minValue.toInt Int32.maxValue.toInt x = none := by
    refine integerWithin?_eq_none fun r hr => ?_
    rw [Int32.toInt_minValue, Int32.toInt_maxValue]
    exact_mod_cast h r hr
  rw [cast, castToInt32, hnone]

private theorem castToInt64_float (h : exactNumber? x = some r) (hlo : -2 ^ 63 ≤ r) (hhi : r ≤ 2 ^ 63) :
    (float x).cast .int64 = .ok (int64 (.ofIntClamp (towardsZero r))) := by
  have hfound : integerWithin? Int64.minValue.toInt (Int64.maxValue.toInt + 1) x = some (towardsZero r) := by
    refine integerWithin?_of_le h ?_ ?_
    · rw [Int64.toInt_minValue]
      exact_mod_cast hlo
    · rw [Int64.toInt_maxValue]
      exact_mod_cast hhi
  rw [cast, castToInt64, hfound]

theorem exists_castToInt64_float (h : exactNumber? x = some r) (hlo : -2 ^ 63 ≤ r) (hhi : r < 2 ^ 63) :
    ∃ n : Int64, (float x).cast .int64 = .ok (int64 n) ∧ n.toInt = towardsZero r := by
  have hlo' : -2 ^ 63 ≤ towardsZero r := le_towardsZero (by exact_mod_cast hlo)
  have hhi' : towardsZero r < 2 ^ 63 := towardsZero_lt (by exact_mod_cast hhi) (by decide)
  refine ⟨_, castToInt64_float h hlo hhi.le, Int64.toInt_ofIntClamp ?_ ?_⟩
  · rwa [Int64.toInt_minValue]
  · rw [Int64.toInt_maxValue]
    omega

/-- The bound 2^63 itself is let through. -/
theorem castToInt64_float_two_pow (h : exactNumber? x = some (2 ^ 63)) :
    (float x).cast .int64 = .ok (int64 Int64.maxValue) := by
  rw [castToInt64_float h (by norm_num) le_rfl, towardsZero_two_pow]
  rfl

theorem castToInt64_float_eq_error (h : ∀ r, exactNumber? x = some r → ¬ (-2 ^ 63 ≤ r ∧ r ≤ 2 ^ 63)) :
    (float x).cast .int64 = .error (.overflow (Decimal.Layout.plain.text x) .int64) := by
  have hnone : integerWithin? Int64.minValue.toInt (Int64.maxValue.toInt + 1) x = none := by
    refine integerWithin?_eq_none fun r hr => ?_
    rw [Int64.toInt_minValue, Int64.toInt_maxValue]
    exact_mod_cast h r hr
  rw [cast, castToInt64, hnone]

/-- A float is cast to a 32-bit integer by dropping its fraction, if it lies between the least and the greatest one of
them. A cast to a 64-bit integer is the same, but for the float 2^63: it lies beyond all of them and still goes to the
greatest. Everything else is an overflow. -/
theorem cast_float (x : Float) :
    match exactNumber? x with
    | none =>
      (float x).cast .int32 = .error (.overflow (Decimal.Layout.plain.text x) .int32) ∧
      (float x).cast .int64 = .error (.overflow (Decimal.Layout.plain.text x) .int64)
    | some r =>
      (if -2 ^ 31 ≤ r ∧ r ≤ 2 ^ 31 - 1 then
        ∃ n : Int32, (float x).cast .int32 = .ok (int32 n) ∧ n.toInt = towardsZero r
      else (float x).cast .int32 = .error (.overflow (Decimal.Layout.plain.text x) .int32)) ∧
      (if -2 ^ 63 ≤ r ∧ r < 2 ^ 63 then
        ∃ n : Int64, (float x).cast .int64 = .ok (int64 n) ∧ n.toInt = towardsZero r
      else if r = 2 ^ 63 then (float x).cast .int64 = .ok (int64 Int64.maxValue)
      else (float x).cast .int64 = .error (.overflow (Decimal.Layout.plain.text x) .int64)) := by
  cases h : exactNumber? x with
  | none => exact ⟨castToInt32_float_eq_error (by simp [h]), castToInt64_float_eq_error (by simp [h])⟩
  | some r =>
    constructor
    · split
      · rename_i hr
        exact exists_castToInt32_float h hr.1 hr.2
      · rename_i hr
        exact castToInt32_float_eq_error fun r' hr' => by rwa [← Option.some.inj (h.symm.trans hr')]
    · split
      · rename_i hr
        exact exists_castToInt64_float h hr.1 hr.2
      · split
        · rename_i hr
          exact castToInt64_float_two_pow (hr ▸ h)
        · rename_i hr hne
          refine castToInt64_float_eq_error fun r' hr' hbounds => ?_
          obtain rfl : r = r' := Option.some.inj (h.symm.trans hr')
          exact hr ⟨hbounds.1, lt_of_le_of_ne hbounds.2 hne⟩

private theorem exactNumber?_ofBits_two_pow : exactNumber? (Float.ofBits 0x43E0000000000000) = some (2 ^ 63) := by
  have hunpack : (Float.ofBits 0x43E0000000000000).toModel.unpack = .finite .positive (2 ^ 52) 11 (by decide) := rfl
  rw [exactNumber?, hunpack, numberOf?]
  norm_num [Sign.apply]

/-- The float 2^63 is cast to an integer that it does not stand for. -/
theorem cast_float_ne_of_two_pow :
    let x := Float.ofBits 0x43E0000000000000
    exactNumber? x = some (2 ^ 63) ∧ towardsZero (2 ^ 63) = 2 ^ 63 ∧
      (float x).cast .int64 = .ok (int64 Int64.maxValue) ∧ Int64.maxValue.toInt = 2 ^ 63 - 1 :=
  ⟨exactNumber?_ofBits_two_pow, towardsZero_two_pow 63, castToInt64_float_two_pow exactNumber?_ofBits_two_pow, rfl⟩

end Value

end DocumentSearch
