import PlantGrammar.Proofs.Numeral.Counts

/-!
# Differences in single precision

A difference is computed exactly and rounded afterwards, and rounding keeps its sign, also when the
result is too small or too great to have 24 digits.  So a difference is not above 0 if the number that
is taken away is not below the other one (`Normalized.not_zero_lt_sub`), whatever is lost in rounding.

* `exists_unpack_ofNat`: natural numbers keep their order to those that have exact values.
* `not_zero_lt_sub_div`: a quotient taken away from a number.
-/

namespace PlantGrammar.Numeral

open Float.Model UnpackedFloat

/-! ### Signs -/

theorem zero_lt_iff {x : Float32} : 0 < x ↔ (UnpackedFloat.zero .positive).lt x.toModel.unpack = true :=
  decide_eq_true_iff

/-- Bits with the sign of a negative number are not read as one above 0. -/
theorem not_zero_lt_unpack (exponent : BitVec 8) (mantissa : BitVec 23) :
    (UnpackedFloat.zero .positive).lt
      (UnpackedFloat.unpack .binary32 (packComponents .binary32 .negative exponent mantissa)) = false := by
  rw [UnpackedFloat.unpack]
  simp only [unpackExponent_packComponents, unpackMantissa_packComponents,
    unpackSign_packComponents, Sign.ofBitVec_toBitVec]
  split_ifs <;> rfl

/-- Whatever is rounded keeps its sign. -/
theorem exists_pack_roundWithAccuracy (s : Sign) (m : Nat) (e : Int) (a : Accuracy) :
    ∃ exponent mantissa, UnpackedFloat.pack .binary32 (roundWithAccuracy .binary32 s m e a) =
      packComponents .binary32 s exponent mantissa := by
  simp only [roundWithAccuracy]
  split_ifs with vanished
  · exact ⟨_, _, rfl⟩
  · rw [UnpackedFloat.pack]
    split_ifs <;> exact ⟨_, _, rfl⟩

theorem exists_pack_round (s : Sign) (m : Nat) (e : Int) :
    ∃ exponent mantissa, UnpackedFloat.pack .binary32 (UnpackedFloat.round .binary32 s m e) =
      packComponents .binary32 s exponent mantissa :=
  exists_pack_roundWithAccuracy s _ _ .exact

/-- An integer that is not above 0 is not rounded to a number above 0. -/
theorem not_zero_lt_normalize {m : Int} (le : m ≤ 0) (e : Int) :
    (UnpackedFloat.zero .positive).lt
      (Float32.Model.pack (UnpackedFloat.normalize .binary32 m e .positive)).unpack = false := by
  obtain rfl | less := Int.le_iff_eq_or_lt.1 le
  · have zero : UnpackedFloat.normalize .binary32 0 e .positive = .zero .positive := rfl
    rw [zero]
    decide
  · obtain ⟨exponent, mantissa, packed⟩ := exists_pack_round .negative (-m).toNat e
    have bits := not_zero_lt_unpack exponent mantissa
    rw [← packed] at bits
    rw [UnpackedFloat.normalize, Int.compare_eq_lt.2 less]
    exact bits

namespace Normalized

/-- With zeros written behind its mantissa, the smaller number has the smaller mantissa. -/
theorem aligned_le {x y : Normalized} (le : x ≤ y) :
    x.mantissa <<< (x.exponent - min x.exponent y.exponent).toNat ≤
      y.mantissa <<< (y.exponent - min x.exponent y.exponent).toNat := by
  obtain less | ⟨equal, le⟩ := le
  · have zeros : (x.exponent - min x.exponent y.exponent).toNat = 0 := by omega
    obtain ⟨k, more⟩ : ∃ k, (y.exponent - min x.exponent y.exponent).toNat = k + 1 :=
      Nat.exists_eq_add_of_le' (by omega)
    rw [zeros, more, Nat.shiftLeft_zero, Nat.shiftLeft_eq, Nat.pow_succ]
    have upper := x.upper
    have lower := y.lower
    have power : 1 ≤ 2 ^ k := Nat.one_le_two_pow
    calc x.mantissa ≤ y.mantissa * (1 * 2) := by omega
      _ ≤ y.mantissa * (2 ^ k * 2) := Nat.mul_le_mul_left _ (Nat.mul_le_mul_right 2 power)
  · rw [equal, min_self, Int.sub_self]
    exact le

theorem not_zero_lt_sub {x y : Normalized} (le : x ≤ y) :
    (UnpackedFloat.zero .positive).lt
      (Float32.Model.pack (UnpackedFloat.sub .binary32 x.unpacked y.unpacked)).unpack = false := by
  have aligned := aligned_le le
  rw [sub_unpacked]
  apply not_zero_lt_normalize
  omega

end Normalized

/-! ### Natural numbers and quotients -/

open Normalized

/-- Rounding does not bring a natural number below an exact one that it reaches. -/
theorem exists_unpack_ofNat {m n : Nat} (pos : 0 < m) (le : m ≤ n) (less : m < 2 ^ 24)
    (small : n < 2 ^ 64) :
    ∃ x : Normalized, (Float32.ofNat n).toModel.unpack = x.unpacked ∧ x.exponent ≤ 41 ∧
      Normalized.ofNat m pos less.le ≤ x := by
  by_cases exact : n ≤ 2 ^ 24
  · have counts := counts_ofNat (pos.trans_le le) exact
    refine ⟨_, counts.unpack, ?_, ofNat_le pos le exact⟩
    have log : n.log2 < 64 := (Nat.log2_lt (by omega)).2 small
    rw [exponent_ofNat]
    omega
  · have nonzero : n ≠ 0 := by omega
    have short : m.log2 < 24 := (Nat.log2_lt (Nat.ne_of_gt pos)).2 less
    have long : 24 ≤ n.log2 := (Nat.le_log2 nonzero).2 (by omega)
    have log : n.log2 < 64 := (Nat.log2_lt nonzero).2 small
    have scaled : (n * 2 ^ 24).log2 = 23 + (n.log2 + 1) := by
      rw [log2_mul_two_pow (by omega)]
      omega
    obtain ⟨x, rounded, digits⟩ :=
      exists_normalized_roundWithAccuracy (e := -24) .exact scaled (by omega) (by omega)
    refine ⟨x, ?_, by omega, .inl ?_⟩
    · rw [toModel_ofNat_of_long (by omega), rounded, unpack_pack]
    · rw [exponent_ofNat]
      omega

/-- A quotient that reaches a number with 24 digits leaves nothing of it. -/
theorem not_zero_lt_sub_div {x y z : Float32} {b d k : Normalized}
    (minuend : x.toModel.unpack = b.unpacked) (dividend : y.toModel.unpack = d.unpacked)
    (divisor : z.toModel.unpack = k.unpacked) (close : -125 ≤ d.exponent - k.exponent)
    (far : d.exponent - k.exponent < 127)
    (reached : b.exponent < d.exponent - k.exponent - 24 ∨
      b.exponent = d.exponent - k.exponent - 24 ∧ b.mantissa * k.mantissa ≤ d.mantissa * 2 ^ 24) :
    ¬ 0 < x - y / z := by
  obtain ⟨q, quotient, le⟩ := le_div close far reached
  rw [← dividend, ← divisor] at quotient
  have rounded : (y / z).toModel = Float32.Model.pack q.unpacked :=
    congrArg Float32.Model.pack quotient
  have subtrahend : (y / z).toModel.unpack = q.unpacked := by rw [rounded, unpack_pack]
  have below := not_zero_lt_sub le
  rw [← minuend, ← subtrahend] at below
  rw [zero_lt_iff, Bool.not_eq_true]
  exact below

end PlantGrammar.Numeral
