import Mathlib

/-!
# Integers in double precision

Equality of double-precision numbers is symmetric and transitive (`beq_comm`, `beq_trans`). Rounding tells an integer
below 2^53 in magnitude from every other 64-bit integer (`eq_of_ofInt_beq`).

A positive integer becomes a number `m · 2^e` in which `m` has 53 bits (`exists_unpack_ofNat`). Two such numbers are
equal only if `m` and `e` are, and `e` is positive exactly for integers from 2^53 on.
-/

namespace DocumentSearch.Rounding

open Float.Model Float.Model.UnpackedFloat

/-! ### Equality -/

/-- The two zeros are equal numbers, and so their sign is dropped. -/
def unsignedZero : UnpackedFloat → UnpackedFloat
  | .zero _ => .zero .positive
  | x => x

private theorem compare_eq_iff {a b : UnpackedFloat} :
    a.compare b = some .eq ↔ a ≠ .notANumber ∧ unsignedZero a = unsignedZero b := by
  cases a with
  | notANumber => simp [UnpackedFloat.compare]
  | infinity s =>
    cases b with
    | infinity t => cases s <;> cases t <;> simp [UnpackedFloat.compare, unsignedZero, compare]
    | notANumber | zero | finite => cases s <;> simp [UnpackedFloat.compare, unsignedZero]
  | zero s =>
    cases b with
    | finite t => cases t <;> simp [UnpackedFloat.compare, unsignedZero]
    | infinity t => cases t <;> simp [UnpackedFloat.compare, unsignedZero]
    | notANumber | zero => simp [UnpackedFloat.compare, unsignedZero]
  | finite s m e =>
    cases b with
    | finite t m' e' =>
      cases s <;> cases t <;> simp [UnpackedFloat.compare, unsignedZero, Ordering.then_eq_eq, and_comm]
    | infinity t => cases t <;> simp [UnpackedFloat.compare, unsignedZero]
    | notANumber => simp [UnpackedFloat.compare, unsignedZero]
    | zero => cases s <;> simp [UnpackedFloat.compare, unsignedZero]

theorem beq_iff {x y : Float} : (x == y) = true ↔
    x.toModel.unpack ≠ .notANumber ∧ unsignedZero x.toModel.unpack = unsignedZero y.toModel.unpack := by
  rw [← compare_eq_iff]
  exact beq_iff_eq (α := Option Ordering)

theorem beq_comm {x y : Float} (h : (x == y) = true) : (y == x) = true := by
  rw [beq_iff] at h ⊢
  refine ⟨fun hy => h.1 ?_, h.2.symm⟩
  have heq := h.2
  rw [hy] at heq
  cases hx : x.toModel.unpack <;> rw [hx] at heq <;> first | rfl | cases heq

theorem beq_trans {x y z : Float} (hxy : (x == y) = true) (hyz : (y == z) = true) : (x == z) = true := by
  rw [beq_iff] at hxy hyz ⊢
  exact ⟨hxy.1, hxy.2.trans hyz.2⟩

/-! ### Rounding to 53 bits -/

private theorem mantissa_shiftRight (m k : Nat) :
    ((⟨m, false, false⟩ : ExtendedMantissa) >>> k).mantissa = m / 2 ^ k := by
  change (k.repeat ExtendedMantissa.shiftRightOne _).mantissa = _
  induction k with
  | zero => simp [Nat.repeat]
  | succ k ih => rw [Nat.repeat, ExtendedMantissa.shiftRightOne, ih, Nat.div_div_eq_div_mul, Nat.pow_succ]

/-- No bit is lost where the factor of two is there. -/
private theorem shiftRight_mul (m k : Nat) :
    (⟨m * 2 ^ k, false, false⟩ : ExtendedMantissa) >>> k = ⟨m, false, false⟩ := by
  change k.repeat ExtendedMantissa.shiftRightOne _ = _
  induction k generalizing m with
  | zero => simp [Nat.repeat]
  | succ k ih =>
    rw [Nat.repeat, Nat.pow_succ, Nat.mul_comm (2 ^ k), ← Nat.mul_assoc, ih]
    simp [ExtendedMantissa.shiftRightOne]

private theorem roundedMantissa_bounds (em : ExtendedMantissa) :
    em.mantissa ≤ em.roundedMantissa ∧ em.roundedMantissa ≤ em.mantissa + 1 := by
  obtain ⟨m, round, sticky⟩ := em
  cases round <;> cases sticky <;>
    simp [ExtendedMantissa.roundedMantissa, ExtendedMantissa.accuracy, Accuracy.roundToNearestEven]
  omega

/-- The exponent with which a number of `l + 1` bits has 53 of them, unless it is too small. -/
private theorem targetExponent_eq {m l : Nat} (hl : 2 ^ l ≤ m) (hl' : m < 2 ^ (l + 1)) (e : Int) :
    Format.binary64.targetExponent (totalExponent m e) = max (l - 52 + e) (-1074) := by
  have hne : m ≠ 0 := by have := Nat.two_pow_pos l; omega
  have hlog : m.log2 = l := (Nat.log2_eq_iff hne).2 ⟨hl, hl'⟩
  have hmin : Format.binary64.minExponent = -1074 := by decide
  have hbits : Format.binary64.mantissaBits = 53 := by decide
  rw [Format.targetExponent, totalExponent, hmin, hbits, hlog]
  omega

/-- A mantissa of `53 + k` bits is to lose `k` of them. -/
private theorem shiftToTargetExponent_eq {m k : Nat} {e : Int} (hm : 2 ^ (52 + k) ≤ m) (hm' : m < 2 ^ (53 + k))
    (he : -1074 ≤ e + k) :
    shiftToTargetExponent .binary64 m e .exact = ((⟨m, false, false⟩ : ExtendedMantissa) >>> k, e + k) := by
  have htarget : Format.binary64.targetExponent (totalExponent m e) = e + k := by
    rw [targetExponent_eq hm (by rwa [show 52 + k + 1 = 53 + k by omega])]
    omega
  have hshift : (e + k - e).toNat = k := by omega
  simp only [shiftToTargetExponent, htarget, shiftToExponent, hshift, ExtendedMantissa.ofMantissaAndAccuracy]

/-- What is rounded to 53 bits keeps its sign, and its exponent up to a carry. -/
private theorem exists_roundWithAccuracy (s : Sign) {m k : Nat} {e : Int} (hm : 2 ^ (52 + k) ≤ m)
    (hm' : m < 2 ^ (53 + k)) (he : -1074 ≤ e + k) :
    ∃ m' e' h, roundWithAccuracy .binary64 s m e .exact = .finite s m' e' h ∧ 2 ^ 52 ≤ m' ∧ m' < 2 ^ 53 ∧
      e + k ≤ e' ∧ e' ≤ e + k + 1 := by
  have hquotient := mantissa_shiftRight m k
  have hrounded := roundedMantissa_bounds ((⟨m, false, false⟩ : ExtendedMantissa) >>> k)
  have hlower : 2 ^ 52 ≤ m / 2 ^ k := (Nat.le_div_iff_mul_le (Nat.two_pow_pos k)).2 (by rwa [← Nat.pow_add])
  have hupper : m / 2 ^ k < 2 ^ 53 := (Nat.div_lt_iff_lt_mul (Nat.two_pow_pos k)).2 (by rwa [← Nat.pow_add])
  obtain ⟨r, hr⟩ : ∃ r, ((⟨m, false, false⟩ : ExtendedMantissa) >>> k).roundedMantissa = r := ⟨_, rfl⟩
  rw [hquotient, hr] at hrounded
  simp only [roundWithAccuracy, shiftToTargetExponent_eq hm hm' he, hr]
  by_cases hcarry : r < 2 ^ 53
  · have hexact := shiftToTargetExponent_eq (m := r) (k := 0) (e := e + k) (by omega) (by omega) (by omega)
    have hmantissa := shiftRight_mul r 0
    simp only [Nat.pow_zero, Nat.mul_one] at hmantissa
    simp only [hexact, hmantissa]
    have hne : r ≠ 0 := by omega
    exact ⟨r, e + k + (0 : Nat), Nat.pos_of_ne_zero hne, by rw [dif_neg hne], by omega, hcarry, by omega, by omega⟩
  · -- all bits were ones, and one more was carried
    obtain rfl : r = 2 ^ 53 := by omega
    have hexact := shiftToTargetExponent_eq (m := 2 ^ 53) (k := 1) (e := e + k) (by omega) (by omega) (by omega)
    have hmantissa := shiftRight_mul (2 ^ 52) 1
    rw [← Nat.pow_add] at hmantissa
    simp only [hexact, hmantissa]
    exact ⟨2 ^ 52, e + k + (1 : Nat), by decide, dif_neg (by decide), by omega, by omega, by omega, by omega⟩

/-- A number that has 53 bits after `k` zeros are cut off loses nothing else. -/
private theorem roundWithAccuracy_mul (s : Sign) {m : Nat} (k : Nat) {e : Int} (hm : 2 ^ 52 ≤ m) (hm' : m < 2 ^ 53)
    (he : -1074 ≤ e + k) (h : 0 < m) :
    roundWithAccuracy .binary64 s (m * 2 ^ k) e .exact = .finite s m (e + k) h := by
  have hlower : 2 ^ (52 + k) ≤ m * 2 ^ k := by rw [Nat.pow_add]; exact Nat.mul_le_mul_right _ hm
  have hupper : m * 2 ^ k < 2 ^ (53 + k) := by
    rw [Nat.pow_add]; exact Nat.mul_lt_mul_of_pos_right hm' (Nat.two_pow_pos k)
  have hfirst := shiftToTargetExponent_eq hlower hupper he
  rw [shiftRight_mul] at hfirst
  have hrounded : (⟨m, false, false⟩ : ExtendedMantissa).roundedMantissa = m := rfl
  have hsecond := shiftToTargetExponent_eq (m := m) (k := 0) (e := e + k) (by omega) (by omega) (by omega)
  have hmantissa := shiftRight_mul m 0
  simp only [Nat.pow_zero, Nat.mul_one] at hmantissa
  simp only [roundWithAccuracy, hfirst, hrounded, hsecond, hmantissa]
  rw [dif_neg (by omega)]
  congr 1
  omega

/-! ### Packing -/

/-- Of 53 bits, all but the highest are stored. -/
private theorem toNat_one_append_ofNat {m : Nat} (hm : 2 ^ 52 ≤ m) (hm' : m < 2 ^ 53) :
    (1#1 ++ BitVec.ofNat 52 m).toNat = m := by
  rw [BitVec.toNat_append, ← Nat.shiftLeft_add_eq_or_of_lt (BitVec.isLt _), BitVec.toNat_ofNat]
  simp only [BitVec.toNat_ofNat, Nat.shiftLeft_eq]
  omega

/-- Numbers of 53 bits are kept as they are. -/
private theorem unpack_pack (s : Sign) {m : Nat} {e : Int} (h : 0 < m) (hm : 2 ^ 52 ≤ m) (hm' : m < 2 ^ 53)
    (he : -1074 ≤ e) (he' : e ≤ 971) : (Float.Model.pack (.finite s m e h)).unpack = .finite s m e h := by
  have hlog : m.log2 + 1 = Format.binary64.mantissaBits := by
    rw [(Nat.log2_eq_iff (by omega)).2 ⟨hm, hm'⟩]
    rfl
  obtain ⟨b, hb⟩ : ∃ b : Nat, e = b - 1075 := ⟨(e + 1075).toNat, by omega⟩
  subst hb
  have hbiased : ((b : Int) - 1075 + Format.binary64.exponentBias + Format.binary64.mantissaBitsWithoutImplicit).toNat
      = b := by
    have hbias : Format.binary64.exponentBias = 1023 := by decide
    rw [hbias]
    simp only
    omega
  have hpack : UnpackedFloat.pack .binary64 (.finite s m (b - 1075) h) =
      packComponents .binary64 s (BitVec.ofNat 11 b) (BitVec.ofNat 52 m) := by
    have hfits : ¬ 2 ^ Format.binary64.exponentBits ≤ b + 1 := by
      simp only
      omega
    simp only [UnpackedFloat.pack, hbiased, if_neg hfits, if_pos hlog]
  have hexponent : (BitVec.ofNat 11 b).toNat = b := by
    rw [BitVec.toNat_ofNat]
    omega
  have hnotLast : BitVec.ofNat 11 b ≠ -1#11 := by
    rw [BitVec.toNat_ne, hexponent]
    simp
    omega
  have hnotFirst : BitVec.ofNat 11 b ≠ 0#11 := by
    rw [BitVec.toNat_ne, hexponent]
    simp
    omega
  have hunpack : (Float.Model.pack (.finite s m (b - 1075) h)).unpack =
      UnpackedFloat.unpack .binary64 (UnpackedFloat.pack .binary64 (.finite s m (b - 1075) h)) := rfl
  rw [hunpack, hpack]
  simp only [UnpackedFloat.unpack, unpackMantissa_packComponents, unpackExponent_packComponents,
    unpackSign_packComponents, Sign.ofBitVec_toBitVec, if_neg hnotLast, if_neg hnotFirst,
    hexponent, toNat_one_append_ofNat hm hm']
  congr 1

/-! ### Natural numbers -/

private theorem ofNat_of_lt {n : Nat} (h : n < 2 ^ 53) :
    Float.ofNat n = n.toUInt64.toFloat * Float.ofBits 4607182418800017408 := by
  have hsmall : n < 2 ^ 53 ∧ (0 : Nat) ≤ 22 := ⟨h, by decide⟩
  simp only [Float.ofNat, OfScientific.ofScientific, Float.ofScientific, dif_pos hsmall]
  rfl

private theorem ofNat_of_le {n : Nat} (h : 2 ^ 53 ≤ n) : Float.ofNat n = ⟨.ofScientific n 0⟩ := by
  have hlarge : ¬ (n < 2 ^ 53 ∧ (0 : Nat) ≤ 22) := by omega
  simp only [Float.ofNat, OfScientific.ofScientific, Float.ofScientific, dif_neg hlarge]
  rfl

/-- Up to 53 bits an integer is shifted until it has 53. -/
private theorem ofInt_natCast {n l : Nat} (hl : 2 ^ l ≤ n) (hl' : n < 2 ^ (l + 1)) (h : l ≤ 52)
    (hlower : 2 ^ 52 ≤ n * 2 ^ (52 - l)) (hupper : n * 2 ^ (52 - l) < 2 ^ 53) (hpos : 0 < n * 2 ^ (52 - l)) :
    UnpackedFloat.ofInt .binary64 n = .finite .positive (n * 2 ^ (52 - l)) (l - 52) hpos := by
  have hcompare : compare (n : Int) 0 = .gt := Int.compare_eq_gt.2 (by have := Nat.two_pow_pos l; omega)
  have htarget : Format.binary64.targetExponent (totalExponent n 0) = l - 52 := by
    rw [targetExponent_eq hl hl']
    omega
  have hshift : (0 - ((l : Int) - 52)).toNat = 52 - l := by omega
  have hround := roundWithAccuracy_mul .positive 0 (e := 0 - ((52 - l : Nat) : Int)) hlower hupper (by omega) hpos
  rw [Nat.pow_zero, Nat.mul_one] at hround
  simp only [UnpackedFloat.ofInt, UnpackedFloat.normalize, hcompare, Int.toNat_natCast, UnpackedFloat.round, htarget,
    decreaseExponent, hshift, Nat.shiftLeft_eq, hround]
  congr 1
  omega

private theorem unpack_ofNat_of_lt {n l : Nat} (hl : 2 ^ l ≤ n) (hl' : n < 2 ^ (l + 1)) (h : l ≤ 52) :
    ∃ hpos, (Float.ofNat n).toModel.unpack = .finite .positive (n * 2 ^ (52 - l)) (l - 52) hpos ∧
      2 ^ 52 ≤ n * 2 ^ (52 - l) ∧ n * 2 ^ (52 - l) < 2 ^ 53 := by
  have hlower : 2 ^ 52 ≤ n * 2 ^ (52 - l) := by
    calc 2 ^ 52 = 2 ^ l * 2 ^ (52 - l) := by rw [← Nat.pow_add]; congr 1; omega
      _ ≤ n * 2 ^ (52 - l) := Nat.mul_le_mul_right _ hl
  have hupper : n * 2 ^ (52 - l) < 2 ^ 53 := by
    calc n * 2 ^ (52 - l) < 2 ^ (l + 1) * 2 ^ (52 - l) := Nat.mul_lt_mul_of_pos_right hl' (Nat.two_pow_pos _)
      _ = 2 ^ 53 := by rw [← Nat.pow_add]; congr 1; omega
  have hn : n < 2 ^ 53 := lt_of_lt_of_le hl' (Nat.pow_le_pow_right (by decide) (by omega))
  have hpos : 0 < n * 2 ^ (52 - l) := by omega
  refine ⟨hpos, ?_, hlower, hupper⟩
  have hnat : n.toUInt64.toNat = n := by
    rw [Nat.toUInt64, UInt64.toNat_ofNat']
    omega
  have hinteger : n.toUInt64.toFloat.toModel.unpack = .finite .positive (n * 2 ^ (52 - l)) (l - 52) hpos := by
    change (Float.Model.pack (UnpackedFloat.ofInt .binary64 (n.toUInt64.toNat : Int))).unpack = _
    rw [hnat, ofInt_natCast hl hl' h hlower hupper hpos]
    exact unpack_pack .positive hpos hlower hupper (by omega) (by omega)
  -- which is multiplied by one
  have hone : (Float.ofBits 4607182418800017408).toModel.unpack = .finite .positive (2 ^ 52) (-52) (by decide) := rfl
  have hproduct := unpack_pack (.positive * .positive) hpos hlower hupper (e := l - 52 + -52 + (52 : Nat)) (by omega)
    (by omega)
  rw [ofNat_of_lt hn]
  change (Float.Model.pack (UnpackedFloat.mul .binary64 n.toUInt64.toFloat.toModel.unpack
    (Float.ofBits 4607182418800017408).toModel.unpack)).unpack = _
  rw [hinteger, hone, UnpackedFloat.mul, roundWithAccuracy_mul _ 52 hlower hupper (by omega) hpos, hproduct]
  congr 1
  omega

/-- A longer integer is rounded, and its exponent is positive. -/
private theorem unpack_ofNat_of_le {n l : Nat} (hl : 2 ^ l ≤ n) (hl' : n < 2 ^ (l + 1)) (h : 53 ≤ l) (h' : l < 64) :
    ∃ m e hpos, (Float.ofNat n).toModel.unpack = .finite .positive m e hpos ∧ 2 ^ 52 ≤ m ∧ m < 2 ^ 53 ∧ 1 ≤ e ∧
      e ≤ 971 := by
  have hn : 2 ^ 53 ≤ n := (Nat.pow_le_pow_right (by decide) h).trans hl
  have hlower : 2 ^ (52 + (l + 1)) ≤ n <<< 53 * 10 ^ 0 := by
    rw [Nat.shiftLeft_eq, Nat.pow_zero, Nat.mul_one]
    calc 2 ^ (52 + (l + 1)) = 2 ^ l * 2 ^ 53 := by rw [← Nat.pow_add]; congr 1; omega
      _ ≤ n * 2 ^ 53 := Nat.mul_le_mul_right _ hl
  have hupper : n <<< 53 * 10 ^ 0 < 2 ^ (53 + (l + 1)) := by
    rw [Nat.shiftLeft_eq, Nat.pow_zero, Nat.mul_one]
    calc n * 2 ^ 53 < 2 ^ (l + 1) * 2 ^ 53 := Nat.mul_lt_mul_of_pos_right hl' (Nat.two_pow_pos _)
      _ = 2 ^ (53 + (l + 1)) := by rw [← Nat.pow_add]; congr 1; omega
  obtain ⟨m, e, hpos, hround, hm, hm', he, he'⟩ :=
    exists_roundWithAccuracy (.positive * .positive) hlower hupper (e := -53 + 0) (by omega)
  refine ⟨m, e, hpos, ?_, hm, hm', by omega, by omega⟩
  have hne : n ≠ 0 := by omega
  have hscientific : UnpackedFloat.ofScientific .binary64 n 0 = .finite .positive m e hpos := by
    have hbits : Format.binary64.mantissaBits = 53 := by decide
    have hexponents : (0 : Int) < 2 ^ Format.binary64.exponentBits := by decide
    have hhigh : ¬ ((0 : Int) > 2 ^ Format.binary64.exponentBits) := by omega
    have hlow : ¬ ((0 : Int) < -(2 ^ Format.binary64.exponentBits + (n.log2 : Int))) := by omega
    simp only [UnpackedFloat.ofScientific, dif_neg hne, if_neg hhigh, if_neg hlow, if_pos (le_refl (0 : Int)), hbits,
      UnpackedFloat.mul, Int.toNat_zero]
    exact hround
  rw [ofNat_of_le hn]
  change (Float.Model.pack (UnpackedFloat.ofScientific .binary64 n 0)).unpack = _
  rw [hscientific]
  exact unpack_pack .positive hpos hm hm' (by omega) (by omega)

private theorem exists_unpack_ofNat {n : Nat} (h0 : n ≠ 0) (h : n < 2 ^ 64) :
    ∃ m e hpos, (Float.ofNat n).toModel.unpack = .finite .positive m e hpos ∧ 2 ^ 52 ≤ m ∧ m < 2 ^ 53 ∧
      -1074 ≤ e ∧ e ≤ 971 ∧ (n < 2 ^ 53 → e ≤ 0 ∧ n * 2 ^ (-e).toNat = m) ∧ (2 ^ 53 ≤ n → 1 ≤ e) := by
  have hl := Nat.log2_self_le h0
  have hl' : n < 2 ^ (n.log2 + 1) := Nat.lt_log2_self
  by_cases hlength : n.log2 ≤ 52
  · obtain ⟨hpos, hunpack, hm, hm'⟩ := unpack_ofNat_of_lt hl hl' hlength
    have hn : n < 2 ^ 53 := (Nat.log2_lt h0).1 (by omega)
    have hexponent : (-((n.log2 : Int) - 52)).toNat = 52 - n.log2 := by omega
    exact ⟨_, _, hpos, hunpack, hm, hm', by omega, by omega, fun _ => ⟨by omega, by rw [hexponent]⟩,
      fun hle => by omega⟩
  · obtain ⟨m, e, hpos, hunpack, hm, hm', he, he'⟩ :=
      unpack_ofNat_of_le hl hl' (by omega) ((Nat.log2_lt h0).2 h)
    have hn : 2 ^ 53 ≤ n := (Nat.le_log2 h0).1 (by omega)
    exact ⟨m, e, hpos, hunpack, hm, hm', by omega, he', fun hlt => by omega, fun _ => he⟩

/-! ### Integers -/

/-- The sign of a rounded integer. -/
private def signOf (n : Int) : Sign := if n < 0 then .negative else .positive

private theorem exists_unpack_ofInt {n : Int} (h0 : n ≠ 0) (h : n.natAbs < 2 ^ 64) :
    ∃ m e hpos, (Float.ofInt n).toModel.unpack = .finite (signOf n) m e hpos ∧
      (n.natAbs < 2 ^ 53 → e ≤ 0 ∧ n.natAbs * 2 ^ (-e).toNat = m) ∧ (2 ^ 53 ≤ n.natAbs → 1 ≤ e) := by
  obtain ⟨m, e, hpos, hunpack, hm, hm', he, he', hsmall, hlarge⟩ := exists_unpack_ofNat (Int.natAbs_ne_zero.2 h0) h
  refine ⟨m, e, hpos, ?_, hsmall, hlarge⟩
  cases n with
  | ofNat n => exact hunpack
  | negSucc n =>
    change (Float.Model.pack (Float.ofNat n.succ).toModel.unpack.neg).unpack = _
    rw [show (Float.ofNat n.succ).toModel.unpack = _ from hunpack,
      show signOf (.negSucc n) = .negative from if_pos (Int.negSucc_lt_zero n)]
    exact unpack_pack .negative hpos hm hm' he he'

private theorem unpack_ofInt_zero : (Float.ofInt 0).toModel.unpack = .zero .positive := rfl

/-- An integer below 2^53 in magnitude is rounded to the same number as no other 64-bit integer. -/
theorem eq_of_ofInt_beq {m n : Int} (hm : m.natAbs < 2 ^ 53) (hn : n.natAbs < 2 ^ 64)
    (h : (Float.ofInt m == Float.ofInt n) = true) : m = n := by
  have heq := (beq_iff.1 h).2
  by_cases hm0 : m = 0 <;> by_cases hn0 : n = 0
  · rw [hm0, hn0]
  · obtain ⟨_, _, _, hunpack, -⟩ := exists_unpack_ofInt hn0 hn
    rw [hm0, unpack_ofInt_zero, hunpack] at heq
    cases heq
  · obtain ⟨_, _, _, hunpack, -⟩ := exists_unpack_ofInt hm0 (by omega)
    rw [hn0, unpack_ofInt_zero, hunpack] at heq
    cases heq
  · obtain ⟨a, e, hpos, hunpack, hsmall, -⟩ := exists_unpack_ofInt hm0 (by omega)
    obtain ⟨a', e', hpos', hunpack', hsmall', hlarge'⟩ := exists_unpack_ofInt hn0 hn
    rw [hunpack, hunpack'] at heq
    obtain ⟨hsign, rfl, rfl⟩ : signOf m = signOf n ∧ a = a' ∧ e = e' := by simpa [unsignedZero] using heq
    obtain ⟨he, hmantissa⟩ := hsmall hm
    have hn' : n.natAbs < 2 ^ 53 := by
      by_contra hge
      have := hlarge' (by omega)
      omega
    have habs : m.natAbs = n.natAbs :=
      Nat.eq_of_mul_eq_mul_right (Nat.two_pow_pos _) (hmantissa.trans (hsmall' hn').2.symm)
    unfold signOf at hsign
    split at hsign <;> split at hsign <;> first | omega | cases hsign

end DocumentSearch.Rounding
