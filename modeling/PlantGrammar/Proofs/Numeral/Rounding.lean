import Mathlib

/-!
# Rounding in single precision

Operations on single precision numbers compute with mantissas of any length and cut the result to 24
digits.  This file follows a positive result through that, for the numbers whose mantissas have all 24
digits: dropping zeros does not change a number (`roundWithAccuracy_exact`), and what is rounded up
may get a digit more, but is a number with 24 digits again (`exists_normalized_roundWithAccuracy`).

* `Normalized.unpack_pack`: a normalized number is read back from its bits.
* `Normalized.div_le_one`, `Normalized.le_div`: where rounding does not bring a quotient.
-/

namespace PlantGrammar.Numeral

open Float.Model UnpackedFloat

theorem log2_mul_two_pow {m : Nat} (pos : 0 < m) (i : Nat) : (m * 2 ^ i).log2 = m.log2 + i := by
  induction i with
  | zero => rw [Nat.pow_zero, Nat.mul_one, Nat.add_zero]
  | succ i ih =>
    have scaled : m * 2 ^ i ≠ 0 := Nat.ne_of_gt (Nat.mul_pos pos (Nat.two_pow_pos i))
    rw [Nat.pow_succ, ← Nat.mul_assoc, Nat.mul_comm _ 2, Nat.log2_two_mul scaled, ih, Nat.add_assoc]

/-! ### Normalized numbers -/

/-- A positive number whose mantissa has exactly 24 digits. -/
structure Normalized where
  mantissa : Nat
  exponent : Int
  lower : 2 ^ 23 ≤ mantissa
  upper : mantissa < 2 ^ 24
  exponent_lower : -149 ≤ exponent
  exponent_upper : exponent ≤ 104

namespace Normalized

theorem mantissa_pos (x : Normalized) : 0 < x.mantissa := Nat.lt_of_lt_of_le (by decide) x.lower

theorem log2_mantissa (x : Normalized) : x.mantissa.log2 = 23 :=
  (Nat.log2_eq_iff (Nat.ne_of_gt x.mantissa_pos)).2 ⟨x.lower, x.upper⟩

/-- The number as operations see it. -/
def unpacked (x : Normalized) : UnpackedFloat := .finite .positive x.mantissa x.exponent x.mantissa_pos

/-- The exponent as it stands in the bits. -/
def field (x : Normalized) : Nat := (x.exponent + 150).toNat

theorem field_eq (x : Normalized) : (x.field : Int) = x.exponent + 150 := by
  have := x.exponent_lower
  rw [field]
  omega

theorem pack_unpacked (x : Normalized) :
    UnpackedFloat.pack .binary32 x.unpacked =
      packComponents .binary32 .positive (BitVec.ofNat 8 x.field) (BitVec.ofNat 23 x.mantissa) := by
  have biased : (x.exponent + Format.exponentBias .binary32 + (23 : Nat)).toNat = x.field := by
    have bias : Format.exponentBias .binary32 = 127 := rfl
    rw [bias, field]
    omega
  have in_range : ¬ 2 ^ 8 ≤ x.field + 1 := by
    have := x.field_eq
    have := x.exponent_upper
    omega
  have digits : x.mantissa.log2 + 1 = Format.mantissaBits .binary32 := by
    rw [x.log2_mantissa]
    rfl
  simp only [unpacked, UnpackedFloat.pack, biased]
  rw [if_neg in_range, if_pos digits]

/-- The first digit of the mantissa is not among the bits. -/
theorem toNat_append_mantissa (x : Normalized) :
    (1#1 ++ BitVec.ofNat 23 x.mantissa).toNat = x.mantissa := by
  have lower := x.lower
  have upper := x.upper
  rw [BitVec.toNat_append, BitVec.toNat_ofNat, BitVec.toNat_ofNat, Nat.shiftLeft_eq,
    Nat.mul_comm, ← Nat.two_pow_add_eq_or_of_lt (Nat.mod_lt _ (by decide))]
  omega

/-- A normalized number is read back from its bits. -/
theorem unpack_pack (x : Normalized) : (Float32.Model.pack x.unpacked).unpack = x.unpacked := by
  have field : (BitVec.ofNat 8 x.field).toNat = x.field := by
    have := x.field_eq
    have := x.exponent_upper
    rw [BitVec.toNat_ofNat]
    omega
  have finite : BitVec.ofNat 8 x.field ≠ -1#8 := by
    intro infinite
    have := congrArg BitVec.toNat infinite
    have := x.field_eq
    have := x.exponent_upper
    have : (-1#8).toNat = 255 := rfl
    omega
  have normal : BitVec.ofNat 8 x.field ≠ 0#8 := by
    intro subnormal
    have := congrArg BitVec.toNat subnormal
    have := x.field_eq
    have := x.exponent_lower
    have : (0#8).toNat = 0 := rfl
    omega
  have exponent : (x.field : Int) - (Format.exponentBias .binary32 + (23 : Nat)) = x.exponent := by
    have bias : Format.exponentBias .binary32 = 127 := rfl
    rw [x.field_eq, bias]
    omega
  have bits : (Float32.Model.pack x.unpacked).unpack =
      UnpackedFloat.unpack .binary32 (UnpackedFloat.pack .binary32 x.unpacked) := rfl
  rw [bits, pack_unpacked, UnpackedFloat.unpack]
  simp only [unpackExponent_packComponents, unpackMantissa_packComponents,
    unpackSign_packComponents, Sign.ofBitVec_toBitVec, finite, normal, field, exponent,
    toNat_append_mantissa]
  rfl

/-- Numbers with the same number of digits are compared by their exponents first. -/
instance : LE Normalized where
  le x y := x.exponent < y.exponent ∨ x.exponent = y.exponent ∧ x.mantissa ≤ y.mantissa

theorem unpacked_le {x y : Normalized} (le : x ≤ y) :
    x.unpacked.le y.unpacked = true := by
  have compared : x.unpacked.compare y.unpacked =
      some ((compare x.exponent y.exponent).then (compare x.mantissa y.mantissa)) := rfl
  rw [UnpackedFloat.le, compared, Option.any_some]
  obtain less | ⟨equal, le⟩ := le
  · rw [Int.compare_eq_lt.2 less]
    rfl
  · rw [Int.compare_eq_eq.2 equal]
    exact Nat.isLE_compare.2 le

/-- The number 1. -/
def one : Normalized := ⟨2 ^ 23, -23, by decide, by decide, by decide, by decide⟩

end Normalized

/-! ### Rounding -/

theorem mantissa_shiftRight (m : ExtendedMantissa) (k : Nat) :
    (m >>> k).mantissa = m.mantissa / 2 ^ k := by
  induction k with
  | zero => exact (Nat.div_one _).symm
  | succ k ih =>
    have step : (m >>> (k + 1)).mantissa = (m >>> k).mantissa / 2 := rfl
    rw [step, ih, Nat.div_div_eq_div_mul, ← Nat.pow_succ]

/-- Digits that are zero leave no trace when they are dropped. -/
theorem exact_shiftRight (m k : Nat) :
    (⟨m * 2 ^ k, false, false⟩ : ExtendedMantissa) >>> k = ⟨m, false, false⟩ := by
  induction k generalizing m with
  | zero => rw [Nat.pow_zero, Nat.mul_one]; rfl
  | succ k ih =>
    have step : (⟨m * 2 ^ (k + 1), false, false⟩ : ExtendedMantissa) >>> (k + 1) =
        ((⟨m * 2 ^ (k + 1), false, false⟩ : ExtendedMantissa) >>> k).shiftRightOne := rfl
    have scaled : m * 2 ^ (k + 1) = 2 * m * 2 ^ k := by rw [Nat.pow_succ]; ring
    rw [step, scaled, ih, ExtendedMantissa.shiftRightOne]
    simp

theorem roundedMantissa_bounds (m : ExtendedMantissa) :
    m.mantissa ≤ m.roundedMantissa ∧ m.roundedMantissa ≤ m.mantissa + 1 := by
  obtain ⟨m, r, s⟩ := m
  have parity : m % 2 < 2 := Nat.mod_lt m (by decide)
  cases r <;> cases s <;>
    simp [ExtendedMantissa.roundedMantissa, ExtendedMantissa.accuracy,
      Accuracy.roundToNearestEven]
  omega

theorem targetExponent_eq (e : Int) : Format.targetExponent .binary32 e = max (e - 24) (-149) := rfl

/-- As many digits are dropped as a mantissa has more than 24. -/
theorem shiftToTargetExponent_eq {m k : Nat} {e : Int} (a : Accuracy) (log : m.log2 = 23 + k)
    (normal : -149 ≤ e + k) :
    shiftToTargetExponent .binary32 m e a =
      (ExtendedMantissa.ofMantissaAndAccuracy m a >>> k, e + k) := by
  have target : Format.targetExponent .binary32 (totalExponent m e) = e + k := by
    rw [targetExponent_eq, totalExponent, log]
    omega
  have shift : (e + k - e).toNat = k := by omega
  rw [shiftToTargetExponent, target, shiftToExponent, shift]

/-- A mantissa with 23 more digits than are dropped. -/
theorem kept_digits {m k : Nat} (log : m.log2 = 23 + k) :
    2 ^ 23 ≤ m / 2 ^ k ∧ m / 2 ^ k < 2 ^ 24 := by
  have pos : m ≠ 0 := by
    rintro rfl
    rw [Nat.log2_zero] at log
    omega
  obtain ⟨lower, upper⟩ := (Nat.log2_eq_iff pos).1 log
  have dropped : 0 < 2 ^ k := Nat.two_pow_pos k
  rw [Nat.le_div_iff_mul_le dropped, Nat.div_lt_iff_lt_mul dropped, ← Nat.pow_add, ← Nat.pow_add]
  refine ⟨lower, ?_⟩
  rwa [Nat.add_right_comm] at upper

theorem mantissa_ofMantissaAndAccuracy (m : Nat) (a : Accuracy) :
    (ExtendedMantissa.ofMantissaAndAccuracy m a).mantissa = m := by
  unfold ExtendedMantissa.ofMantissaAndAccuracy
  split <;> rfl

/-- Cutting a mantissa drops its last digits, and rounding adds 1 at most to the others. -/
theorem cut_bounds (m k : Nat) (a : Accuracy) :
    let r := (ExtendedMantissa.ofMantissaAndAccuracy m a >>> k).roundedMantissa
    m / 2 ^ k ≤ r ∧ r ≤ m / 2 ^ k + 1 := by
  have bounds := roundedMantissa_bounds (ExtendedMantissa.ofMantissaAndAccuracy m a >>> k)
  rwa [mantissa_shiftRight, mantissa_ofMantissaAndAccuracy] at bounds

theorem shiftToTargetExponent_normalized (x : Normalized) :
    shiftToTargetExponent .binary32 x.mantissa x.exponent .exact =
      (⟨x.mantissa, false, false⟩, x.exponent) := by
  have lower : -149 ≤ x.exponent + (0 : Nat) := x.exponent_lower.trans_eq (Int.add_zero _).symm
  rw [shiftToTargetExponent_eq (k := 0) .exact x.log2_mantissa lower]
  exact Prod.ext rfl (Int.add_zero _)

/-- After the rounded mantissa has been cut again, no digit is missing. -/
theorem roundWithAccuracy_of_shifted {m : Nat} {e e' : Int} {a : Accuracy} {c : ExtendedMantissa}
    {x : Normalized} (first : shiftToTargetExponent .binary32 m e a = (c, e'))
    (second : shiftToTargetExponent .binary32 c.roundedMantissa e' .exact =
      (⟨x.mantissa, false, false⟩, x.exponent)) :
    roundWithAccuracy .binary32 .positive m e a = x.unpacked := by
  simp only [roundWithAccuracy, first, second]
  rw [dif_neg (Nat.ne_of_gt x.mantissa_pos), Normalized.unpacked]

/-- What is left when a mantissa is cut to 24 digits makes a normal number, also when rounding up has
added a digit. -/
theorem exists_normalized_roundWithAccuracy {m k : Nat} {e : Int} (a : Accuracy)
    (log : m.log2 = 23 + k) (lower : -149 ≤ e + k) (upper : e + k < 104) :
    let r := (ExtendedMantissa.ofMantissaAndAccuracy m a >>> k).roundedMantissa
    ∃ x : Normalized, roundWithAccuracy .binary32 .positive m e a = x.unpacked ∧
      (x.mantissa = r ∧ x.exponent = e + k ∨
        r = 2 ^ 24 ∧ x.mantissa = 2 ^ 23 ∧ x.exponent = e + k + 1) := by
  intro r
  have first := shiftToTargetExponent_eq a log lower
  have bounds : m / 2 ^ k ≤ r ∧ r ≤ m / 2 ^ k + 1 := cut_bounds m k a
  obtain ⟨kept, few⟩ := kept_digits log
  by_cases carry : r = 2 ^ 24
  · let x : Normalized := ⟨2 ^ 23, e + k + 1, by decide, by decide, by omega, by omega⟩
    have second : shiftToTargetExponent .binary32 r (e + k) .exact =
        (⟨x.mantissa, false, false⟩, x.exponent) := by
      rw [carry]
      exact shiftToTargetExponent_eq (k := 1) .exact Nat.log2_two_pow (by omega)
    exact ⟨x, roundWithAccuracy_of_shifted first second, .inr ⟨carry, rfl, rfl⟩⟩
  · let x : Normalized := ⟨r, e + k, by omega, by omega, by omega, by omega⟩
    have second : shiftToTargetExponent .binary32 r (e + k) .exact =
        (⟨x.mantissa, false, false⟩, x.exponent) := shiftToTargetExponent_normalized x
    exact ⟨x, roundWithAccuracy_of_shifted first second, .inl ⟨rfl, rfl⟩⟩

/-- Rounding does not bring a number below one with 24 digits that its first 24 digits reach. -/
theorem le_roundWithAccuracy {b : Normalized} {m k : Nat} {e : Int} (a : Accuracy)
    (log : m.log2 = 23 + k) (lower : -149 ≤ e + k) (upper : e + k < 104)
    (reached : b.exponent < e + k ∨ b.exponent = e + k ∧ b.mantissa ≤ m / 2 ^ k) :
    ∃ z : Normalized, roundWithAccuracy .binary32 .positive m e a = z.unpacked ∧ b ≤ z := by
  have kept := (cut_bounds m k a).1
  obtain ⟨z, rounded, ⟨mantissa, exponent⟩ | ⟨-, -, exponent⟩⟩ :=
    exists_normalized_roundWithAccuracy a log lower upper
  · refine ⟨z, rounded, reached.imp (fun less => ?_) fun equal => ⟨?_, ?_⟩⟩ <;> omega
  · refine ⟨z, rounded, .inl ?_⟩
    omega

/-- A number is not rounded that has as many digits. -/
theorem roundWithAccuracy_exact (x : Normalized) {k : Nat} {e : Int} (exponent : e + k = x.exponent) :
    roundWithAccuracy .binary32 .positive (x.mantissa * 2 ^ k) e .exact = x.unpacked := by
  have log : (x.mantissa * 2 ^ k).log2 = 23 + k := by
    rw [log2_mul_two_pow x.mantissa_pos, x.log2_mantissa]
  have lower : -149 ≤ e + k := exponent ▸ x.exponent_lower
  have first := shiftToTargetExponent_eq .exact log lower
  rw [ExtendedMantissa.ofMantissaAndAccuracy, exact_shiftRight, exponent] at first
  exact roundWithAccuracy_of_shifted first (shiftToTargetExponent_normalized x)

/-! ### Quotients -/

/-- A number below 1 is rounded to 1 at most. -/
theorem roundWithAccuracy_le_one {m k : Nat} {e : Int} (a : Accuracy) (log : m.log2 = 23 + k)
    (lower : -149 ≤ e + k) (upper : e + k ≤ -24) :
    ∃ z : Normalized, roundWithAccuracy .binary32 .positive m e a = z.unpacked ∧ z ≤ .one := by
  have last : Normalized.one.exponent = -23 := rfl
  obtain ⟨z, rounded, ⟨-, exponent⟩ | ⟨-, mantissa, exponent⟩⟩ :=
    exists_normalized_roundWithAccuracy a log lower (by omega)
  · exact ⟨z, rounded, .inl (by omega)⟩
  · refine ⟨z, rounded, ?_⟩
    have bound : z.exponent ≤ -23 := by omega
    obtain equal | less := Int.le_iff_eq_or_lt.1 bound
    · exact .inr ⟨equal, Nat.le_of_eq mantissa⟩
    · exact .inl less

/-- Enough zeros are written behind the dividend for a quotient with 24 or 25 digits. -/
theorem divCore_eq (x y : Normalized) (close : -125 ≤ x.exponent - y.exponent) :
    divCore .binary32 x.mantissa x.exponent y.mantissa y.exponent =
      (x.mantissa * 2 ^ 24 / y.mantissa, x.exponent - y.exponent - 24,
        accuracyOfFraction (x.mantissa * 2 ^ 24 % y.mantissa) y.mantissa) := by
  have target : min (x.exponent - y.exponent) (Format.targetExponent .binary32
      (totalExponent x.mantissa x.exponent - totalExponent y.mantissa y.exponent)) =
        x.exponent - y.exponent - 24 := by
    rw [targetExponent_eq, totalExponent, totalExponent, x.log2_mantissa, y.log2_mantissa]
    omega
  have zeros : (x.exponent - y.exponent - (x.exponent - y.exponent - 24)).toNat = 24 := by omega
  rw [divCore, target, zeros, Nat.shiftLeft_eq]

theorem quotient_bounds (x y : Normalized) :
    2 ^ 23 ≤ x.mantissa * 2 ^ 24 / y.mantissa ∧ x.mantissa * 2 ^ 24 / y.mantissa < 2 ^ 25 := by
  have := x.lower
  have := x.upper
  have := y.lower
  have := y.upper
  rw [Nat.le_div_iff_mul_le y.mantissa_pos, Nat.div_lt_iff_lt_mul y.mantissa_pos]
  omega

theorem exists_log2_quotient (x y : Normalized) :
    ∃ k ≤ 1, (x.mantissa * 2 ^ 24 / y.mantissa).log2 = 23 + k := by
  obtain ⟨long, short⟩ := quotient_bounds x y
  have positive : x.mantissa * 2 ^ 24 / y.mantissa ≠ 0 := by omega
  obtain ⟨k, log⟩ := Nat.exists_eq_add_of_le ((Nat.le_log2 positive).2 long)
  refine ⟨k, ?_, log⟩
  have := (Nat.log2_lt positive).2 short
  omega

namespace Normalized

theorem div_unpacked (x y : Normalized) (close : -125 ≤ x.exponent - y.exponent) :
    UnpackedFloat.div .binary32 x.unpacked y.unpacked =
      roundWithAccuracy .binary32 .positive (x.mantissa * 2 ^ 24 / y.mantissa)
        (x.exponent - y.exponent - 24)
        (accuracyOfFraction (x.mantissa * 2 ^ 24 % y.mantissa) y.mantissa) := by
  simp only [Normalized.unpacked, UnpackedFloat.div, divCore_eq x y close]
  rfl

/-- Rounding does not bring a quotient above 1. -/
theorem div_le_one {x y : Normalized} (le : x ≤ y) (close : -125 ≤ x.exponent - y.exponent) :
    ∃ z : Normalized, UnpackedFloat.div .binary32 x.unpacked y.unpacked = z.unpacked ∧ z ≤ .one := by
  rw [div_unpacked x y close]
  by_cases same : x.exponent = y.exponent ∧ x.mantissa = y.mantissa
  · have whole : x.mantissa * 2 ^ 24 / y.mantissa = Normalized.one.mantissa * 2 ^ 1 := by
      rw [same.2, Nat.mul_div_cancel_left _ y.mantissa_pos]
      rfl
    have exact : x.mantissa * 2 ^ 24 % y.mantissa = 0 := by rw [same.2, Nat.mul_mod_right]
    have exponent : x.exponent - y.exponent - 24 + (1 : Nat) = Normalized.one.exponent := by
      rw [same.1, Int.sub_self]
      rfl
    rw [whole, exact]
    exact ⟨.one, roundWithAccuracy_exact .one exponent, .inr ⟨rfl, Nat.le_refl _⟩⟩
  · obtain ⟨k, digits, log⟩ := exists_log2_quotient x y
    refine roundWithAccuracy_le_one _ log (by omega) ?_
    obtain less | ⟨equal, le⟩ := le
    · omega
    · -- the dividend has the smaller mantissa, so that the quotient has 24 digits
      have less : x.mantissa < y.mantissa := Nat.lt_of_le_of_ne le fun same' => same ⟨equal, same'⟩
      have below : x.mantissa * 2 ^ 24 / y.mantissa < 2 ^ 24 := by
        rw [Nat.div_lt_iff_lt_mul y.mantissa_pos, Nat.mul_comm]
        exact Nat.mul_lt_mul_of_pos_left less (by decide)
      have positive : x.mantissa * 2 ^ 24 / y.mantissa ≠ 0 := by
        have := (quotient_bounds x y).1
        omega
      have := (Nat.log2_lt positive).2 below
      omega

/-- Rounding does not bring a quotient below a number with 24 digits that the exact quotient
reaches. -/
theorem le_div {b x y : Normalized} (close : -125 ≤ x.exponent - y.exponent)
    (far : x.exponent - y.exponent < 127)
    (reached : b.exponent < x.exponent - y.exponent - 24 ∨
      b.exponent = x.exponent - y.exponent - 24 ∧ b.mantissa * y.mantissa ≤ x.mantissa * 2 ^ 24) :
    ∃ z : Normalized, UnpackedFloat.div .binary32 x.unpacked y.unpacked = z.unpacked ∧ b ≤ z := by
  obtain ⟨k, digits, log⟩ := exists_log2_quotient x y
  rw [div_unpacked x y close]
  refine le_roundWithAccuracy _ log (by omega) (by omega) ?_
  obtain less | ⟨equal, le⟩ := reached
  · exact .inl (by omega)
  · obtain rfl | rfl : k = 0 ∨ k = 1 := by omega
    · have whole : b.mantissa ≤ x.mantissa * 2 ^ 24 / y.mantissa :=
        (Nat.le_div_iff_mul_le y.mantissa_pos).2 le
      exact .inr ⟨by omega, whole.trans_eq (Nat.div_one _).symm⟩
    · exact .inl (by omega)

end Normalized

end PlantGrammar.Numeral
