import PlantGrammar.Proofs.Numeral.Rounding

/-!
# Counts in single precision

The natural numbers up to `2 ^ 24` have exact values in single precision, which are found however the
number is converted (`counts_ofNat`, `counts_toFloat32`).  Counting down is exact as well
(`Counts.sub_one`), and a quotient of two counts does not exceed 1 if the dividend does not exceed the
divisor (`Counts.div_le_one`).

* `ofNat_sub_one_div_le_one`: counting down and dividing, as far as this gives at most 1.
-/

namespace PlantGrammar.Numeral

open Float.Model UnpackedFloat

/-! ### Natural numbers -/

namespace Normalized

/-- A number up to `2 ^ 24`. -/
def ofNat (n : Nat) (pos : 0 < n) (small : n ≤ 2 ^ 24) : Normalized where
  mantissa := n * 2 ^ 23 / 2 ^ n.log2
  exponent := n.log2 - 23
  lower := by
    rw [Nat.le_div_iff_mul_le (Nat.two_pow_pos _), Nat.mul_comm]
    exact Nat.mul_le_mul_right _ (Nat.log2_self_le (Nat.ne_of_gt pos))
  upper := by
    rw [Nat.div_lt_iff_lt_mul (Nat.two_pow_pos _)]
    have := Nat.mul_lt_mul_of_pos_right (Nat.lt_log2_self (n := n)) (Nat.two_pow_pos 23)
    rw [Nat.pow_succ] at this
    omega
  exponent_lower := by omega
  exponent_upper := by
    have log : n.log2 < 25 := (Nat.log2_lt (Nat.ne_of_gt pos)).2 (by omega)
    omega

variable {n : Nat} (pos : 0 < n) (small : n ≤ 2 ^ 24)

theorem exponent_ofNat : (ofNat n pos small).exponent = n.log2 - 23 := rfl

/-- No digit of the number is lost. -/
theorem mantissa_ofNat : (ofNat n pos small).mantissa * 2 ^ n.log2 = n * 2 ^ 23 := by
  apply Nat.div_mul_cancel
  obtain rfl | less := Nat.eq_or_lt_of_le small
  · rw [Nat.log2_two_pow, ← Nat.pow_add]
    exact Nat.pow_dvd_pow 2 (by omega)
  · have log : n.log2 < 24 := (Nat.log2_lt (Nat.ne_of_gt pos)).2 less
    exact Dvd.dvd.mul_left (Nat.pow_dvd_pow 2 (by omega)) n

/-- However the number is written, with enough zeros it is rounded to itself. -/
theorem roundWithAccuracy_ofNat {i : Nat} (long : 23 ≤ n.log2 + i) :
    roundWithAccuracy .binary32 .positive (n * 2 ^ i) (-i) .exact = (ofNat n pos small).unpacked := by
  obtain ⟨k, digits⟩ := Nat.exists_eq_add_of_le long
  have scaled : n * 2 ^ i = (ofNat n pos small).mantissa * 2 ^ k := by
    have powers : 2 ^ n.log2 * 2 ^ i = 2 ^ 23 * 2 ^ k := by rw [← Nat.pow_add, ← Nat.pow_add, digits]
    have zeros : 0 < 2 ^ 23 := Nat.two_pow_pos 23
    apply Nat.eq_of_mul_eq_mul_right zeros
    calc n * 2 ^ i * 2 ^ 23 = n * 2 ^ 23 * 2 ^ i := Nat.mul_right_comm ..
      _ = (ofNat n pos small).mantissa * 2 ^ n.log2 * 2 ^ i := by rw [mantissa_ofNat]
      _ = (ofNat n pos small).mantissa * (2 ^ 23 * 2 ^ k) := by rw [Nat.mul_assoc, powers]
      _ = (ofNat n pos small).mantissa * 2 ^ k * 2 ^ 23 := by ring
  have exponent : -(i : Int) + k = (ofNat n pos small).exponent := by
    rw [exponent_ofNat]
    omega
  rw [scaled, roundWithAccuracy_exact _ exponent]

theorem round_ofNat (i : Nat) :
    UnpackedFloat.round .binary32 .positive (n * 2 ^ i) (-i) = (ofNat n pos small).unpacked := by
  have target : Format.targetExponent .binary32 (totalExponent (n * 2 ^ i) (-i)) = n.log2 - 23 := by
    have log : (n * 2 ^ i).log2 = n.log2 + i := log2_mul_two_pow pos i
    rw [targetExponent_eq, totalExponent, log]
    omega
  let zeros : Nat := (-(i : Int) - (n.log2 - 23)).toNat
  have long : 23 ≤ n.log2 + (i + zeros) := by omega
  have decreased : decreaseExponent (n * 2 ^ i) (-i) (n.log2 - 23) =
      (n * 2 ^ (i + zeros), -((i + zeros : Nat) : Int)) := by
    refine Prod.ext ?_ ?_
    · change (n * 2 ^ i) <<< zeros = _
      rw [Nat.shiftLeft_eq, Nat.mul_assoc, Nat.pow_add]
    · change -(i : Int) - zeros = _
      omega
  rw [UnpackedFloat.round, target, decreased]
  exact roundWithAccuracy_ofNat pos small long

/-- Signed numbers are rounded in the same way. -/
theorem normalize_ofNat (i : Nat) :
    UnpackedFloat.normalize .binary32 (n * 2 ^ i : Nat) (-i) .positive = (ofNat n pos small).unpacked := by
  have scaled : 0 < n * 2 ^ i := Nat.mul_pos pos (Nat.two_pow_pos i)
  rw [UnpackedFloat.normalize, Int.compare_eq_gt.2 (Int.natCast_pos.2 scaled)]
  exact round_ofNat pos small i

theorem ofNat_le {m n : Nat} (pos : 0 < m) (le : m ≤ n) (small : n ≤ 2 ^ 24) :
    ofNat m pos (le.trans small) ≤
      ofNat n (Nat.lt_of_lt_of_le pos le) small := by
  have power : 2 ^ m.log2 ≤ n := (Nat.log2_self_le (Nat.ne_of_gt pos)).trans le
  have positive : n ≠ 0 := Nat.ne_of_gt (Nat.lt_of_lt_of_le pos le)
  obtain equal | less := Nat.eq_or_lt_of_le ((Nat.le_log2 positive).2 power)
  · refine .inr ⟨by rw [exponent_ofNat, exponent_ofNat, equal], ?_⟩
    change m * 2 ^ 23 / 2 ^ m.log2 ≤ n * 2 ^ 23 / 2 ^ n.log2
    rw [equal]
    exact Nat.div_le_div_right (Nat.mul_le_mul_right _ le)
  · refine .inl ?_
    rw [exponent_ofNat, exponent_ofNat]
    omega

end Normalized

/-! ### Single precision -/

/-- The number is a natural one, up to `2 ^ 24` and not 0. -/
structure Counts (x : Float32) (n : Nat) : Prop where
  pos : 0 < n
  small : n ≤ 2 ^ 24
  unpack : x.toModel.unpack = (Normalized.ofNat n pos small).unpacked

open Normalized

variable {x y : Float32} {n : Nat}

/-- What an operation has to compute for a count. -/
theorem Counts.of_pack {u : UnpackedFloat} (model : x.toModel = Float32.Model.pack u) (pos : 0 < n)
    (small : n ≤ 2 ^ 24) (computed : u = (Normalized.ofNat n pos small).unpacked) : Counts x n := by
  refine ⟨pos, small, ?_⟩
  rw [model, computed, unpack_pack]

theorem unpack_one : (1 : Float32).toModel.unpack = Normalized.one.unpacked := rfl

theorem counts_model (pos : 0 < n) (small : n ≤ 2 ^ 24) : Counts (.ofModel (.ofNat n)) n := by
  refine .of_pack rfl pos small ?_
  have rounded := normalize_ofNat pos small 0
  rw [Nat.pow_zero, Nat.mul_one] at rounded
  exact rounded

theorem counts_toFloat32 {n : UInt32} (pos : 0 < n.toNat) (small : n.toNat ≤ 2 ^ 24) :
    Counts n.toFloat32 n.toNat :=
  counts_model pos small

theorem mul_finite {m m' : Nat} {e e' : Int} (pos : 0 < m) (pos' : 0 < m') :
    UnpackedFloat.mul .binary32 (.finite .positive m e pos) (.finite .positive m' e' pos') =
      roundWithAccuracy .binary32 .positive (m * m') (e + e') .exact := rfl

theorem Counts.mul_one (counts : Counts x n) : Counts (x * 1) n := by
  refine .of_pack rfl counts.pos counts.small ?_
  rw [counts.unpack, unpack_one]
  have exponent : (Normalized.ofNat n counts.pos counts.small).exponent + one.exponent + (23 : Nat) =
      (Normalized.ofNat n counts.pos counts.small).exponent := Int.sub_add_cancel _ 23
  exact roundWithAccuracy_exact _ exponent

theorem ofNat_eq (n : Nat) : Float32.ofNat n =
    if n < 2 ^ 23 ∧ 0 ≤ 10 then n.toUInt64.toFloat32 * 1 else .ofModel (.ofScientific n 0) := rfl

/-- Long numbers are written with zeros at the end. -/
theorem toModel_ofNat_of_long (long : 2 ^ 23 ≤ n) : (Float32.ofNat n).toModel =
    Float32.Model.pack (roundWithAccuracy .binary32 .positive (n * 2 ^ 24) (-24) .exact) := by
  have converted : (Float32.ofModel (.ofScientific n 0)).toModel =
      Float32.Model.pack (UnpackedFloat.ofScientific .binary32 n 0) := rfl
  have positive : n ≠ 0 := by omega
  have least : -(2 ^ 8 + (n.log2 : Int)) ≤ 0 := by omega
  have power : 10 ^ Int.toNat 0 = 1 := rfl
  have digits : Format.mantissaBits .binary32 = 24 := rfl
  rw [ofNat_eq, if_neg (by omega), converted, UnpackedFloat.ofScientific, dif_neg positive,
    if_neg (by decide), if_neg (Int.not_lt.2 least), if_pos (Int.le_refl 0), mul_finite,
    Nat.shiftLeft_eq, power, digits, Nat.mul_one, Int.add_zero]
  rfl

/-- Short numbers are multiplied by 1; this is exact, and so are the zeros at the end of long ones. -/
theorem counts_ofNat (pos : 0 < n) (small : n ≤ 2 ^ 24) : Counts (Float32.ofNat n) n := by
  by_cases short : n < 2 ^ 23
  · have word : n.toUInt64.toNat = n := Nat.mod_eq_of_lt (by omega)
    have converted : n.toUInt64.toFloat32 = .ofModel (.ofNat n.toUInt64.toNat) := rfl
    rw [ofNat_eq, if_pos ⟨short, by decide⟩, converted, word]
    exact (counts_model pos small).mul_one
  · have long : 2 ^ 23 ≤ n := Nat.le_of_not_lt short
    exact .of_pack (toModel_ofNat_of_long long) pos small
      (roundWithAccuracy_ofNat pos small (by omega))

theorem sub_unpacked (x y : Normalized) :
    UnpackedFloat.sub .binary32 x.unpacked y.unpacked =
      UnpackedFloat.normalize .binary32
        ((x.mantissa <<< (x.exponent - min x.exponent y.exponent).toNat : Nat) -
          (y.mantissa <<< (y.exponent - min x.exponent y.exponent).toNat : Nat))
        (min x.exponent y.exponent) .positive := rfl

/-- Counting down. -/
theorem Counts.sub_one (counts : Counts x (n + 1)) (pos : 0 < n) : Counts (x - 1) n := by
  obtain ⟨pos', small', unpacked⟩ := counts
  have small : n ≤ 2 ^ 24 := Nat.le_of_succ_le small'
  refine .of_pack rfl pos small ?_
  have common : min (Normalized.ofNat (n + 1) pos' small').exponent one.exponent = -23 := by
    have last : one.exponent = -23 := rfl
    rw [exponent_ofNat, last]
    omega
  have shift : ((Normalized.ofNat (n + 1) pos' small').exponent - -23).toNat = (n + 1).log2 := by
    rw [exponent_ofNat]
    omega
  have subtrahend : one.mantissa <<< (one.exponent - -23).toNat = 2 ^ 23 := rfl
  have rest : (((n + 1) * 2 ^ 23 : Nat) : Int) - (2 ^ 23 : Nat) = (n * 2 ^ 23 : Nat) := by omega
  rw [unpacked, unpack_one, sub_unpacked, common, shift, subtrahend, Nat.shiftLeft_eq,
    mantissa_ofNat, rest]
  exact normalize_ofNat pos small 23

/-! ### Quotients -/

theorem le_one_iff : x ≤ 1 ↔ x.toModel.unpack.le Normalized.one.unpacked = true :=
  decide_eq_true_iff

/-- Rounding does not bring a quotient of counts above 1. -/
theorem Counts.div_le_one {m : Nat} (dividend : Counts x m) (divisor : Counts y n) (le : m ≤ n) :
    x / y ≤ 1 := by
  obtain ⟨pos, _, dividend⟩ := dividend
  obtain ⟨pos', small, divisor⟩ := divisor
  have log : n.log2 < 25 := (Nat.log2_lt (Nat.ne_of_gt pos')).2 (by omega)
  obtain ⟨z, quotient, below⟩ := Normalized.div_le_one (Normalized.ofNat_le pos le small)
    (by rw [exponent_ofNat, exponent_ofNat]; omega)
  rw [← dividend, ← divisor] at quotient
  have rounded : (x / y).toModel = Float32.Model.pack z.unpacked :=
    congrArg Float32.Model.pack quotient
  rw [le_one_iff, rounded, unpack_pack]
  exact Normalized.unpacked_le below

theorem Counts.zero_div_le_one (divisor : Counts y n) : (1 - 1) / y ≤ 1 := by
  have zero : (1 - 1 : Float32).toModel.unpack = .zero .positive := rfl
  have quotient : UnpackedFloat.div .binary32 (1 - 1 : Float32).toModel.unpack y.toModel.unpack =
      .zero .positive := by
    rw [zero, divisor.unpack]
    rfl
  have rounded : ((1 - 1) / y).toModel = Float32.Model.pack (.zero .positive) :=
    congrArg Float32.Model.pack quotient
  rw [le_one_iff, rounded]
  rfl

/-- The first number without an exact value is rounded to the one before it. -/
theorem counts_toFloat32_min {n : UInt32} (pos : 0 < n.toNat) (small : n.toNat ≤ 2 ^ 24 + 1) :
    Counts n.toFloat32 (min n.toNat (2 ^ 24)) := by
  obtain last | less := Nat.eq_or_lt_of_le small
  · obtain rfl : n = 0x1000001 := UInt32.toNat_inj.1 last
    have rounded : (0x1000001 : UInt32).toFloat32 = (0x1000000 : UInt32).toFloat32 := by
      decide +kernel
    rw [rounded]
    exact counts_toFloat32 (by decide) (by decide)
  · have exact : n.toNat ≤ 2 ^ 24 := Nat.le_of_lt_succ less
    rw [Nat.min_eq_left exact]
    exact counts_toFloat32 pos exact

/-- Counting down from one of the next two numbers, rounding does not bring the result back above
`2 ^ 24`. -/
theorem exists_counts_ofNat_sub_one {d : Nat} (two : 2 ≤ d) (small : d ≤ 2 ^ 24 + 2) :
    ∃ m, m < d ∧ m ≤ 2 ^ 24 ∧ Counts (Float32.ofNat d - 1) m := by
  by_cases exact : d ≤ 2 ^ 24
  · obtain ⟨m, rfl⟩ := Nat.exists_eq_add_of_le' two
    exact ⟨m + 1, by omega, by omega, (counts_ofNat (by omega) exact).sub_one m.succ_pos⟩
  · obtain rfl | rfl : d = 0x1000001 ∨ d = 0x1000002 := by omega
    · have rounded : Float32.ofNat 0x1000001 - 1 = Float32.ofNat 0xFFFFFF := by decide +kernel
      rw [rounded]
      exact ⟨0xFFFFFF, by decide, by decide, counts_ofNat (by decide) (by decide)⟩
    · have rounded : Float32.ofNat 0x1000002 - 1 = Float32.ofNat 0x1000000 := by decide +kernel
      rw [rounded]
      exact ⟨0x1000000, by decide, by decide, counts_ofNat (by decide) (by decide)⟩

/-- Counting down from the number after `n` or from one before it gives `n` at most, and so it is with
the quotient, although not all of these numbers have an exact value.  It is no longer so if `n` is
`2 ^ 24 + 2`, which has one. -/
theorem ofNat_sub_one_div_le_one {d : Nat} {n : UInt32} (pos : 0 < d) (le : d ≤ n.toNat + 1)
    (small : n.toNat ≤ 2 ^ 24 + 1) (divisor : n ≠ 0) :
    (Float32.ofNat d - 1) / n.toFloat32 ≤ 1 := by
  have divisor_pos : 0 < n.toNat := Nat.pos_of_ne_zero (UInt32.toNat_inj.not.2 divisor)
  have counts_divisor := counts_toFloat32_min divisor_pos small
  obtain rfl | two := Nat.eq_or_lt_of_le (Nat.succ_le_of_lt pos)
  · exact counts_divisor.zero_div_le_one
  · obtain ⟨m, below, small', counts_dividend⟩ := exists_counts_ofNat_sub_one two (by omega)
    exact counts_dividend.div_le_one counts_divisor (by omega)

example : 1 < (Float32.ofNat 0x1000003 - 1) / (0x1000002 : UInt32).toFloat32 := by decide +kernel

end PlantGrammar.Numeral
