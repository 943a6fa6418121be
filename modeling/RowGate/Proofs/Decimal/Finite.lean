import Mathlib.Algebra.Group.Nat.Defs
import Mathlib.Data.Int.Order.Basic
import Mathlib.Order.Nat
import RowGate.Decimal.Scientific

/-! # Integers as doubles

An integer of 64 bits is far from the greatest double, so its double is finite. The operations that
make the double from the integer are followed with generous bounds: one on the bits of the mantissa,
one on the exponent. The format itself has mantissas of 53 bits and exponents from -1074 to 971.
-/

namespace RowGate.Decimal

open Float.Model (Format UnpackedFloat totalExponent)
open Float.Model.UnpackedFloat

/-- Zero, or a mantissa below `2 ^ k` with an exponent up to `b`. -/
inductive Within (k : ℕ) (b : ℤ) : UnpackedFloat → Prop
  | zero (s : Sign) : Within k b (.zero s)
  | finite (s : Sign) {m : ℕ} {e : ℤ} (hpos : 0 < m) (hm : m < 2 ^ k) (he : e ≤ b) :
    Within k b (.finite s m e hpos)

variable {k l m n : ℕ} {b c e : ℤ} {u v : UnpackedFloat}

namespace Within

theorem mono (hk : k ≤ l) (hb : b ≤ c) (h : Within k b u) : Within l c u := by
  cases h with
  | zero s => exact .zero s
  | finite s hpos hm he =>
    exact .finite s hpos (hm.trans_le (Nat.pow_le_pow_right (by decide) hk)) (he.trans hb)

/-- Only infinity and NaN have no bounds. -/
theorem isFinite (h : Within k b u) : u.isFinite = true := by
  cases h <;> rfl

theorem neg (h : Within k b u) : Within k b u.neg := by
  cases h with
  | zero s => exact .zero _
  | finite s hpos hm he => exact .finite _ hpos hm he

end Within

/-! ## Rounding -/

/-- The highest bit of a number below `2 ^ k`. -/
theorem log2_lt (hk : 0 < k) (hm : m < 2 ^ k) : m.log2 < k := by
  rcases Nat.eq_zero_or_pos m with rfl | hpos
  · simpa using hk
  · exact (Nat.log2_lt hpos.ne').mpr hm

/-- A shift to the right drops bits. -/
theorem mantissa_shiftRight_le (em : ExtendedMantissa) (n : ℕ) :
    (em >>> n).mantissa ≤ em.mantissa := by
  change (n.repeat ExtendedMantissa.shiftRightOne em).mantissa ≤ em.mantissa
  induction n with
  | zero => exact le_rfl
  | succ n ih => exact (Nat.div_le_self _ 2).trans ih

/-- Rounding adds at most one. -/
theorem roundedMantissa_le (em : ExtendedMantissa) : em.roundedMantissa ≤ em.mantissa + 1 := by
  obtain ⟨m, r, s⟩ := em
  have hodd : m % 2 < 2 := Nat.mod_lt m (by decide)
  cases r <;> cases s <;>
    simp only [ExtendedMantissa.roundedMantissa, ExtendedMantissa.accuracy,
      Accuracy.roundToNearestEven] <;> omega

/-- The last bit of a mantissa that is 53 bits long, or the last one of all. -/
theorem targetExponent_binary64 (e : ℤ) :
    Format.binary64.targetExponent e = max (e - 53) (-1074) :=
  rfl

/-- A shift to the exponent that the format asks for drops bits, and raises the exponent by no more
than the bits that are too many. -/
theorem shiftToTargetExponent_le (hk : 53 ≤ k) (hb : -1074 ≤ b) (hm : m < 2 ^ k) (he : e ≤ b)
    (a : Accuracy) :
    (shiftToTargetExponent .binary64 m e a).1.mantissa ≤ m ∧
      (shiftToTargetExponent .binary64 m e a).2 ≤ b + k - 53 := by
  have hlog := log2_lt (by omega) hm
  have hmantissa : (ExtendedMantissa.ofMantissaAndAccuracy m a).mantissa = m := by
    rcases a with - | - | - | - <;> rfl
  constructor
  · exact (mantissa_shiftRight_le _ _).trans_eq hmantissa
  · simp only [shiftToTargetExponent, shiftToExponent, targetExponent_binary64, totalExponent]
    omega

/-- The first shift adds to the exponent at most what is above 53 bits, the second one bit more. -/
theorem within_roundWithAccuracy (s : Sign) (hk : 53 ≤ k) (hb : -1074 ≤ b) (hm : m < 2 ^ k)
    (he : e ≤ b) (a : Accuracy) :
    Within (k + 1) (b + 2 * k) (roundWithAccuracy .binary64 s m e a) := by
  obtain ⟨hm₁, he₁⟩ := shiftToTargetExponent_le hk hb hm he a
  unfold roundWithAccuracy
  generalize shiftToTargetExponent .binary64 m e a = x at hm₁ he₁
  -- Rounding may carry into one more bit, which is why a second shift follows.
  have hm₂ : x.1.roundedMantissa < 2 ^ (k + 1) := by
    have hrounded := roundedMantissa_le x.1
    rw [Nat.pow_succ]
    omega
  obtain ⟨hm₃, he₃⟩ := shiftToTargetExponent_le (by omega) (by omega) hm₂ he₁ .exact
  dsimp only
  by_cases hzero : (shiftToTargetExponent .binary64 x.1.roundedMantissa x.2 .exact).1.mantissa = 0
  · rw [dif_pos hzero]
    exact .zero s
  · rw [dif_neg hzero]
    exact .finite s _ (hm₃.trans_lt hm₂) (by omega)

/-- Rounding to the format adds the bits that are missing, and drops those that are too many. -/
theorem within_round (s : Sign) (hk : 1 ≤ k) (hb : -1074 ≤ b) (hm : m < 2 ^ k) (he : e ≤ b) :
    Within (k + 53) (b + 2 * (k + 52)) (round .binary64 s m e) := by
  -- Only the bits that are missing up to 53 are added.
  have hshift : (e - Format.binary64.targetExponent (totalExponent m e)).toNat ≤ 52 := by
    simp only [targetExponent_binary64, totalExponent]
    omega
  have hsize : m <<< (e - Format.binary64.targetExponent (totalExponent m e)).toNat <
      2 ^ (k + 52) := by
    rw [Nat.shiftLeft_eq, Nat.pow_add]
    exact Nat.mul_lt_mul_of_lt_of_le hm (Nat.pow_le_pow_right (by decide) hshift)
      (Nat.two_pow_pos 52)
  exact within_roundWithAccuracy s (by omega) hb hsize (by omega) .exact

/-- A natural number has no exponent of its own. -/
theorem within_ofNat (hk : 1 ≤ k) (hn : n < 2 ^ k) :
    Within (k + 53) (2 * (k + 52)) (ofNat .binary64 n) := by
  rw [ofNat, ofInt, UnpackedFloat.normalize]
  split
  next hlt => exact absurd (Int.compare_eq_lt.mp hlt) (Int.not_lt.mpr (Int.natCast_nonneg n))
  next => exact .zero _
  next =>
    rw [Int.toNat_natCast]
    simpa using within_round .positive hk (by decide) hn (Int.le_refl 0)

/-- Mantissas are multiplied, exponents are added, and the result is rounded. -/
theorem within_mul (hk : 53 ≤ k + l) (hb : -1074 ≤ b + c) (hu : Within k b u) (hv : Within l c v) :
    Within (k + l + 1) (b + c + 2 * (k + l)) (mul .binary64 u v) := by
  cases hu with
  | zero s => cases hv <;> exact .zero _
  | @finite s m₁ e₁ hpos₁ hm₁ he₁ =>
    cases hv with
    | zero t => exact .zero _
    | @finite t m₂ e₂ hpos₂ hm₂ he₂ =>
      have hm : m₁ * m₂ < 2 ^ (k + l) := by
        rw [Nat.pow_add]
        exact Nat.mul_lt_mul'' hm₁ hm₂
      exact within_roundWithAccuracy _ hk hb hm (by omega) .exact

/-! ## Packing -/

/-- A bit pattern whose exponent is not that of infinity and NaN. -/
theorem within_unpack (s : Sign) (exponent : BitVec 11) (mantissa : BitVec 52)
    (hexponent : exponent.toNat ≤ b + 1075) (hlow : -1074 ≤ b) (hhigh : b ≤ 971) :
    Within 53 b (unpack .binary64 (packComponents .binary64 s exponent mantissa)) := by
  have hfinite : exponent ≠ -1#_ := by
    rintro rfl
    exact absurd (hexponent.trans (Int.add_le_add_right hhigh 1075)) (by decide)
  have hbias : Format.binary64.exponentBias = 1023 := rfl
  unfold unpack
  dsimp only
  rw [unpackExponent_packComponents, if_neg hfinite, hbias]
  by_cases hzero : exponent = 0#11
  · have htoNat : exponent.toNat = 0 := by rw [hzero]; rfl
    rw [if_pos hzero]
    by_cases hmantissa : unpackMantissa (packComponents .binary64 s exponent mantissa) = 0#52
    · rw [dif_pos hmantissa]
      exact .zero _
    · rw [dif_neg hmantissa]
      exact .finite _ _ ((BitVec.isLt _).trans (by decide)) (by omega)
  · rw [if_neg hzero]
    exact .finite _ _ (BitVec.isLt _) (by omega)

/-- What is too large is packed as infinity, and what has too few bits as subnormal. -/
theorem pack_finite (s : Sign) (hpos : 0 < m) :
    pack .binary64 (.finite s m e hpos) =
      if 2 ^ 11 ≤ (e + 1023 + 52).toNat + 1 then packedInfinity .binary64 s
      else if m.log2 + 1 = 53 then
        packComponents .binary64 s (BitVec.ofNat 11 (e + 1023 + 52).toNat) (BitVec.ofNat 52 m)
      else packComponents .binary64 s 0 (BitVec.ofNat 52 m) :=
  rfl

/-- What is packed within bounds that the format holds is unpacked within them. -/
theorem within_unpack_pack (h : Within k b u) (hlow : -1074 ≤ b) (hhigh : b ≤ 971) :
    Within 53 b (Float.Model.pack u).unpack := by
  change Within 53 b (unpack .binary64 (pack .binary64 u))
  cases h with
  | zero s => exact within_unpack s 0 0 (by simp; omega) hlow hhigh
  | @finite s m e hpos hm he =>
    have hfits : ¬2 ^ 11 ≤ (e + 1023 + 52).toNat + 1 := by omega
    rw [pack_finite, if_neg hfits]
    split
    · refine within_unpack s _ _ ?_ hlow hhigh
      rw [BitVec.toNat_ofNat, Nat.mod_eq_of_lt (by omega)]
      omega
    · exact within_unpack s _ _ (by simp; omega) hlow hhigh

/-! ## Whole numbers -/

/-- The double made of a number that its mantissa holds. -/
theorem within_toFloat (n : UInt64) : Within 53 232 n.toFloat.toModel.unpack := by
  have hn : Within (64 + 53) (2 * (64 + 52)) (ofNat .binary64 n.toNat) :=
    within_ofNat (by decide) n.toNat_lt
  exact within_unpack_pack hn (by decide) (by decide)

/-- One is `2 ^ 52 * 2 ^ -52`. -/
theorem within_one : Within 53 (-52) (Float.ofBits 0x3FF0000000000000).toModel.unpack :=
  .finite .positive (m := 2 ^ 52) (by decide) (by decide) (by decide)

/-- A number that the mantissa may not hold, on its way through the format. -/
theorem within_unpacked_ofScientific (hn : n < 2 ^ 64) :
    Within 119 183 (ofScientific .binary64 n 0) := by
  rw [ofScientific]
  by_cases hzero : n = 0
  · rw [dif_pos hzero]
    exact .zero _
  · have hn' : n <<< 53 < 2 ^ 117 := by
      rw [Nat.shiftLeft_eq]
      omega
    have hlow : ¬(0 : ℤ) < -((2 ^ Format.binary64.exponentBits : ℤ) + n.log2) := by
      change ¬(0 : ℤ) < -(2 ^ 11 + n.log2)
      omega
    rw [dif_neg hzero, if_neg (by decide), if_neg hlow, if_pos (by decide)]
    exact within_mul (by decide) (by decide) (.finite _ _ hn' (Int.le_refl (-53)))
      (.finite _ _ (by decide : 10 ^ 0 < 2 ^ 1) (Int.le_refl 0))

/-- A number is made a double in one of two ways, both within the bounds. -/
theorem within_ofScientific (hn : n < 2 ^ 64) :
    Within 53 392 (Float.ofScientific n false 0).toModel.unpack := by
  rw [Float.ofScientific]
  split
  next =>
    have hmul := within_mul (by decide) (by decide) (within_toFloat n.toUInt64) within_one
    exact within_unpack_pack hmul (by decide) (by decide)
  next =>
    exact (within_unpack_pack (within_unpacked_ofScientific hn) (by decide) (by decide)).mono
      (le_refl 53) (by decide)

/-- Numbers of up to 20 digits are not cut off for their length. -/
theorem within_scientific (hn : n < 2 ^ 64) :
    Within 53 392 (Scientific.toFloat ⟨false, n, 0⟩).toModel.unpack := by
  have hlength : (Nat.toDigits 10 n).length ≤ 20 :=
    (Nat.length_toDigits_le_iff (by decide) (by decide)).mpr (hn.trans (by decide))
  have hzero : Within 53 392 (0 : Float).toModel.unpack :=
    within_ofScientific (by decide : 0 < 2 ^ 64)
  rw [Scientific.toFloat]
  simp only [Bool.false_eq_true, if_false]
  split
  · exact hzero
  · rw [if_neg (by omega)]
    exact within_ofScientific hn

/-- An integer of 64 bits, with a sign or without one, is a finite double. -/
theorem isFinite_toFloat (negative : Bool) (hn : n < 2 ^ 64) :
    (Scientific.toFloat ⟨negative, n, 0⟩).isFinite = true := by
  have hmagnitude := within_scientific hn
  cases negative with
  | false => exact hmagnitude.isFinite
  | true => exact (within_unpack_pack hmagnitude.neg (by decide) (by decide)).isFinite

end RowGate.Decimal
