import TestReport.Coverage
import Mathlib.Algebra.Ring.Nat

/-!
# Percentages are finite

The percentage of a coverage count is a whole number divided by a hundred, both as floats. It is
never infinite and no NaN, so that it can be written as a JSON number.

What is followed through the arithmetic is how large a float can be. A float is *limited* by a
length and by an exponent if it is a number whose mantissa is no longer and whose exponent goes no
further (`IsLimited`). Rounding raises exponents by little more than twice the length of the
mantissa (`isLimited_roundWithAccuracy`), so integers of 64 bits and their hundredths stay far from
the largest exponent (`isLimited_floatOfInt`, `isLimited_div_hundred`). The bounds are rough,
because there is much room.
-/

namespace TestReport

open Float.Model.UnpackedFloat (Accuracy ExtendedMantissa)
open Float.Model (Format UnpackedFloat totalExponent)

/-! ## Limited floats -/

/-- Whether a float that was taken apart is a number with a mantissa of so many bits and with an
exponent up to a limit. -/
def IsLimited (length : Nat) (limit : Int) : UnpackedFloat → Prop
  | .finite _ mantissa exponent _ => mantissa < 2 ^ length ∧ exponent ≤ limit
  | .zero _ => True
  | .infinity _ | .notANumber => False

section Limited

variable {length : Nat} {limit : Int} {u : UnpackedFloat}

theorem IsLimited.mono {limit' : Int} (h : IsLimited length limit u) (hle : limit ≤ limit') :
    IsLimited length limit' u := by
  cases u with
  | finite sign mantissa exponent hpos => exact ⟨h.1, Int.le_trans h.2 hle⟩
  | zero sign => trivial
  | infinity sign => exact h.elim
  | notANumber => exact h.elim

theorem IsLimited.neg (h : IsLimited length limit u) : IsLimited length limit u.neg := by
  cases u <;> exact h

theorem IsLimited.isFinite (h : IsLimited length limit u) : u.isFinite = true := by
  cases u with
  | finite sign mantissa exponent hpos => rfl
  | zero sign => rfl
  | infinity sign => exact h.elim
  | notANumber => exact h.elim

/-! ## Packing -/

/-- Bits without the exponent of infinity are a number of 53 bits, whose exponent can be read
off. -/
theorem isLimited_unpack {b : BitVec 64}
    (h : (@UnpackedFloat.unpackExponent .binary64 b).toNat < 2047)
    (hlimit : (@UnpackedFloat.unpackExponent .binary64 b).toNat ≤ limit + 1075)
    (hsubnormal : -1074 ≤ limit) : IsLimited 53 limit (UnpackedFloat.unpack .binary64 b) := by
  have hne : @UnpackedFloat.unpackExponent .binary64 b ≠ -1#11 := by
    intro heq
    rw [heq] at h
    exact absurd h (by decide)
  have hbias : ((Format.binary64.exponentBias : Int) + (52 : Nat)) = 1075 := by decide
  unfold UnpackedFloat.unpack
  dsimp only
  rw [if_neg hne]
  by_cases hzero : @UnpackedFloat.unpackExponent .binary64 b = 0#11
  · rw [if_pos hzero]
    by_cases hmantissa : @UnpackedFloat.unpackMantissa .binary64 b = 0#52
    · rw [dif_pos hmantissa]
      trivial
    · rw [dif_neg hmantissa]
      refine ⟨Nat.lt_trans (BitVec.isLt _) (by decide), ?_⟩
      rw [hzero, hbias]
      exact hsubnormal
  · rw [if_neg hzero]
    refine ⟨BitVec.isLt _, ?_⟩
    rw [hbias]
    omega

theorem toNat_unpackExponent_pack_le (h : IsLimited length limit u) (hlimit : limit ≤ 971) :
    (UnpackedFloat.unpackExponent (u.pack .binary64)).toNat ≤ (limit + 1075).toNat := by
  cases u with
  | zero sign =>
    show (UnpackedFloat.unpackExponent (UnpackedFloat.packComponents .binary64 sign 0 0)).toNat ≤ _
    rw [UnpackedFloat.unpackExponent_packComponents]
    exact Nat.zero_le _
  | infinity sign => exact h.elim
  | notANumber => exact h.elim
  | finite sign mantissa exponent hpos =>
    have hexponent : exponent ≤ limit := h.2
    have hbias : Format.binary64.exponentBias = 1023 := by decide
    unfold UnpackedFloat.pack
    dsimp only
    rw [hbias]
    generalize hbiased : (exponent + ((1023 : Nat) : Int) + (52 : Nat)).toNat = biased
    have hfits : ¬ 2 ^ 11 ≤ biased + 1 := by omega
    rw [if_neg hfits]
    by_cases hnormal : mantissa.log2 + 1 = Format.binary64.mantissaBits
    · rw [if_pos hnormal, UnpackedFloat.unpackExponent_packComponents, BitVec.toNat_ofNat]
      exact Nat.le_trans (Nat.mod_le _ _) (by omega)
    · rw [if_neg hnormal, UnpackedFloat.unpackExponent_packComponents]
      exact Nat.zero_le _

/-- A number that is limited far enough below infinity is still one when it is packed. -/
theorem IsLimited.unpack_pack (h : IsLimited length limit u) (hsubnormal : -1074 ≤ limit)
    (hlimit : limit ≤ 971) : IsLimited 53 limit (Float.Model.pack u).unpack := by
  have hexponent := toNat_unpackExponent_pack_le h hlimit
  have hroom : (limit + 1075).toNat < 2047 := by omega
  refine isLimited_unpack (Nat.lt_of_le_of_lt hexponent hroom) ?_ hsubnormal
  have hcast : ((limit + 1075).toNat : Int) = limit + 1075 := Int.toNat_of_nonneg (by omega)
  rw [← hcast]
  exact Int.ofNat_le.2 hexponent

end Limited

/-! ## Rounding -/

theorem mantissa_shiftRight_le (m : ExtendedMantissa) (count : Nat) :
    (m >>> count).mantissa ≤ m.mantissa := by
  induction count with
  | zero => exact Nat.le_refl _
  | succ count ih => exact Nat.le_trans (Nat.div_le_self _ 2) ih

theorem roundedMantissa_le (m : ExtendedMantissa) : m.roundedMantissa ≤ m.mantissa + 1 := by
  obtain ⟨mantissa, roundBit, stickyBit⟩ := m
  cases roundBit <;> cases stickyBit <;>
    simp only [ExtendedMantissa.roundedMantissa, ExtendedMantissa.accuracy,
      Accuracy.roundToNearestEven] <;> omega

theorem mantissa_ofMantissaAndAccuracy (mantissa : Nat) (accuracy : Accuracy) :
    (ExtendedMantissa.ofMantissaAndAccuracy mantissa accuracy).mantissa = mantissa := by
  unfold ExtendedMantissa.ofMantissaAndAccuracy
  split <;> rfl

/-- The exponent to which a number is rounded is its own one less 53, or the least there is. -/
theorem targetExponent_eq (total : Int) :
    Format.binary64.targetExponent total = max (total - 53) (-1074) := by
  have hmin : Format.binary64.minExponent = -1074 := by decide
  have hbits : (Format.binary64.mantissaBits : Int) = 53 := by decide
  rw [Format.targetExponent, hmin, hbits]

section Round

variable {length mantissa : Nat} {exponent limit : Int}

/-- Shifting makes no mantissa longer, and raises an exponent no more than the mantissa is long. -/
theorem shiftToTargetExponent_le (h : mantissa < 2 ^ length) (exponent : Int)
    (accuracy : Accuracy) :
    let shifted := UnpackedFloat.shiftToTargetExponent .binary64 mantissa exponent accuracy
    shifted.1.mantissa ≤ mantissa ∧ shifted.2 ≤ max (exponent + length) (-1074) := by
  constructor
  · exact Nat.le_trans (mantissa_shiftRight_le _ _)
      (Nat.le_of_eq (mantissa_ofMantissaAndAccuracy mantissa accuracy))
  · have hlog : mantissa.log2 ≤ length := by
      by_cases hzero : mantissa = 0
      · rw [hzero]
        exact Nat.zero_le length
      · exact Nat.le_of_lt ((Nat.log2_lt hzero).2 h)
    show exponent + ((Format.binary64.targetExponent (totalExponent mantissa exponent) -
      exponent).toNat : Int) ≤ _
    rw [targetExponent_eq, totalExponent]
    omega

/-- Rounding shifts twice, and the mantissa may have become longer by one bit in between. -/
theorem isLimited_roundWithAccuracy (h : mantissa < 2 ^ length) (sign : UnpackedFloat.Sign)
    (hexponent : exponent ≤ limit) (hlimit : -1074 ≤ limit) (accuracy : Accuracy) :
    IsLimited (length + 1) (limit + 2 * length + 1)
      (UnpackedFloat.roundWithAccuracy .binary64 sign mantissa exponent accuracy) := by
  obtain ⟨hmantissa, hfirst⟩ := shiftToTargetExponent_le h exponent accuracy
  unfold UnpackedFloat.roundWithAccuracy
  generalize UnpackedFloat.shiftToTargetExponent .binary64 mantissa exponent accuracy = first at *
  have hrounded : first.1.roundedMantissa < 2 ^ (length + 1) := by
    have hstep := roundedMantissa_le first.1
    rw [Nat.pow_succ]
    omega
  obtain ⟨hfinal, hsecond⟩ := shiftToTargetExponent_le hrounded first.2 .exact
  dsimp only at hfirst hfinal hsecond ⊢
  generalize UnpackedFloat.shiftToTargetExponent .binary64 _ first.2 .exact = second at *
  by_cases hzero : second.1.mantissa = 0
  · rw [dif_pos hzero]
    trivial
  · rw [dif_neg hzero]
    refine ⟨Nat.lt_of_le_of_lt hfinal hrounded, ?_⟩
    omega

theorem shiftLeft_lt {bound count : Nat} (h : mantissa < 2 ^ length) (hcount : count ≤ bound) :
    mantissa <<< count < 2 ^ (length + bound) := by
  rw [Nat.shiftLeft_eq, Nat.pow_add]
  calc mantissa * 2 ^ count
      ≤ mantissa * 2 ^ bound :=
        Nat.mul_le_mul_left _ (Nat.pow_le_pow_right (by decide) hcount)
    _ < 2 ^ length * 2 ^ bound := Nat.mul_lt_mul_of_pos_right h (Nat.two_pow_pos bound)

/-! ## Integers and their hundredths -/

theorem isLimited_round (h : mantissa < 2 ^ length) (sign : UnpackedFloat.Sign) :
    IsLimited (length + 54) (2 * (length + 53) + 1)
      (UnpackedFloat.round .binary64 sign mantissa 0) := by
  unfold UnpackedFloat.round UnpackedFloat.decreaseExponent
  simp only [targetExponent_eq, totalExponent]
  generalize hcount : (0 - max ((mantissa.log2 : Int) + 1 + 0 - 53) (-1074)).toNat = count
  have hle : count ≤ 53 := by omega
  have hexponent : 0 - (count : Int) ≤ 0 := by omega
  have hlimited :=
    isLimited_roundWithAccuracy (shiftLeft_lt h hle) sign hexponent (by decide) .exact
  exact hlimited.mono (by omega)

end Round

theorem isLimited_ofInt {length : Nat} {n : Int} (h : n.natAbs < 2 ^ length) :
    IsLimited (length + 54) (2 * (length + 53) + 1) (UnpackedFloat.ofInt .binary64 n) := by
  unfold UnpackedFloat.ofInt UnpackedFloat.normalize
  split
  · exact isLimited_round (by omega) _
  · trivial
  · exact isLimited_round (by omega) _

theorem unpack_hundred :
    (100.0 : Float).toModel.unpack = .finite .positive (100 * 2 ^ 46) (-46) (by decide) := by
  rfl

/-- A quotient by a hundred is rounded from less than 160 bits. -/
theorem isLimited_div_hundred {limit : Int} {u : UnpackedFloat} (h : IsLimited 53 limit u)
    (hlimit : -1074 ≤ limit) :
    IsLimited 160 (limit + 500)
      (UnpackedFloat.div .binary64 u (100.0 : Float).toModel.unpack) := by
  rw [unpack_hundred]
  cases u with
  | zero sign => trivial
  | infinity sign => exact h.elim
  | notANumber => exact h.elim
  | finite sign mantissa exponent hpos =>
    obtain ⟨hmantissa, hexponent⟩ := h
    have hlog : Nat.log2 (100 * 2 ^ 46) = 52 := by decide +kernel
    unfold UnpackedFloat.div UnpackedFloat.divCore
    simp only [targetExponent_eq, totalExponent, hlog]
    generalize htarget : min (exponent - -46)
      (max ((mantissa.log2 : Int) + 1 + exponent - (52 + 1 + -46) - 53) (-1074)) = target
    generalize hcount : (exponent - -46 - target).toNat = count
    have hle : count ≤ 106 := by omega
    have hquotient : mantissa <<< count / (100 * 2 ^ 46) < 2 ^ (53 + 106) :=
      Nat.lt_of_le_of_lt (Nat.div_le_self _ _) (shiftLeft_lt hmantissa hle)
    have htarget' : target ≤ limit + 46 := by omega
    have hlimited := isLimited_roundWithAccuracy hquotient (sign / .positive) htarget' (by omega)
      (UnpackedFloat.accuracyOfFraction (mantissa <<< count % (100 * 2 ^ 46)) (100 * 2 ^ 46))
    exact hlimited.mono (by omega)

/-! ## Percentages -/

theorem isLimited_toFloat (n : UInt64) : IsLimited 53 300 n.toFloat.toModel.unpack := by
  have hlt : (n.toNat : Int).natAbs < 2 ^ 64 := n.toNat_lt
  have h : IsLimited 118 300 (UnpackedFloat.ofUInt64 .binary64 n) :=
    (isLimited_ofInt hlt).mono (by decide)
  exact h.unpack_pack (by decide) (by decide)

theorem isLimited_floatOfInt (n : Int) :
    IsLimited 53 300 (Number.floatOfInt n).toModel.unpack := by
  have h := isLimited_toFloat (UInt64.ofNat n.natAbs)
  unfold Number.floatOfInt
  dsimp only
  split
  · exact h.neg.unpack_pack (by decide) (by decide)
  · exact h

/-- A percentage is a number. -/
theorem Metric.isFinite_percentage (total covered : UInt64) :
    (percentage total covered).isFinite = true := by
  have hhundred : (100.0 : Float).isFinite = true := by decide +kernel
  unfold percentage
  split
  · exact hhundred
  · split
    · next b _ =>
      have hlimited := isLimited_div_hundred (isLimited_floatOfInt b.round) (by decide)
      exact (hlimited.unpack_pack (by decide) (by decide)).isFinite
    · exact hhundred

end TestReport
