import LumpRules.Rule.Value
import Mathlib.Algebra.Group.Int.Defs
import Mathlib.Algebra.Group.Nat.Defs
import Mathlib.Tactic.Common

/-!
# Finite numbers

A number is near itself exactly if it is finite: the difference of infinity and itself is not a
number, and nothing that is not a number is at most the tolerance (`isNear_self`).

Numbers of single precision are widened before they are compared.  Each of them has at most 24
binary digits, which fit double precision, and its exponent has room there.  So `widen` makes no
finite number infinite, and a number of single precision is near itself exactly if it is finite
(`isNear_widen_self`).
-/

namespace LumpRules

open Float.Model (Format UnpackedFloat)

theorem sub_self_eq (x : Float) :
  x - x = if x.isFinite then 0.0 else 0.0 / 0.0
  := by
  have hsub : x - x = ⟨.pack (.sub .binary64 x.toModel.unpack x.toModel.unpack)⟩ := rfl
  have hfinite : x.isFinite = x.toModel.unpack.isFinite := rfl
  rw [hsub, hfinite]
  cases x.toModel.unpack with
  | infinity sign => cases sign <;> rfl
  | notANumber => rfl
  | zero sign => cases sign <;> rfl
  | finite sign mantissa exponent hpos =>
    have hzero : UnpackedFloat.sub .binary64 (.finite sign mantissa exponent hpos)
        (.finite sign mantissa exponent hpos) = .zero .positive := by
      unfold UnpackedFloat.sub
      dsimp only
      rw [Int.sub_self]
      rfl
    rw [hzero]
    rfl

/-- Only finite numbers are near themselves. -/
theorem isNear_self (x : Float) :
  isNear x x = x.isFinite
  := by
  rw [isNear, sub_self_eq]
  cases x.isFinite with
  | true => decide +kernel
  | false => decide +kernel

namespace Precision

open Float.Model (totalExponent)
open Float.Model.UnpackedFloat

variable {format : Format} {sign : Sign} {mantissa : Nat} {exponent : Int}

/-! ### Unpacking -/

section Unpacking

variable {bits : BitVec format.numBits}

/-- The greatest exponent is that of infinity and of what is no number. -/
theorem isFinite_unpack_special
    (h : unpackExponent bits = -BitVec.ofNat format.exponentBits 1) :
  (unpack format bits).isFinite = false
  := by
  delta unpack
  dsimp only
  rw [if_pos h]
  split <;> rfl

/-- The least exponent is that of zero and of the numbers all of whose digits are stored. -/
theorem unpack_subnormal (h : unpackExponent bits ≠ -BitVec.ofNat format.exponentBits 1)
    (hleast : unpackExponent bits = BitVec.ofNat format.exponentBits 0) :
  unpack format bits = .zero (.ofBitVec (unpackSign bits)) ∨
    ∃ hpos, unpack format bits =
      .finite (.ofBitVec (unpackSign bits)) (unpackMantissa bits).toNat
        ((unpackExponent bits).toNat -
          (format.exponentBias + format.mantissaBitsWithoutImplicit) + 1) hpos
  := by
  delta unpack
  dsimp only
  rw [if_neg h, if_pos hleast]
  by_cases hzero : unpackMantissa bits = BitVec.ofNat format.mantissaBitsWithoutImplicit 0
  · exact .inl (dif_pos hzero)
  · exact .inr ⟨_, dif_neg hzero⟩

/-- Any other exponent is that of the numbers whose first digit is not stored. -/
theorem unpack_normal (h : unpackExponent bits ≠ -BitVec.ofNat format.exponentBits 1)
    (hleast : unpackExponent bits ≠ BitVec.ofNat format.exponentBits 0) :
  ∃ hpos, unpack format bits =
    .finite (.ofBitVec (unpackSign bits)) (1#1 ++ unpackMantissa bits).toNat
      ((unpackExponent bits).toNat -
        (format.exponentBias + format.mantissaBitsWithoutImplicit)) hpos
  := by
  delta unpack
  dsimp only
  rw [if_neg h, if_neg hleast]
  exact ⟨_, rfl⟩

theorem isFinite_unpack_iff :
  (unpack format bits).isFinite = true ↔
    unpackExponent bits ≠ -BitVec.ofNat format.exponentBits 1
  := by
  constructor
  · intro hfinite h
    rw [isFinite_unpack_special h] at hfinite
    contradiction
  · intro h
    by_cases hleast : unpackExponent bits = BitVec.ofNat format.exponentBits 0
    · obtain hzero | ⟨hpos, hunpack⟩ := unpack_subnormal h hleast
      · rw [hzero]
        rfl
      · rw [hunpack]
        rfl
    · obtain ⟨hpos, hunpack⟩ := unpack_normal h hleast
      rw [hunpack]
      rfl

end Unpacking

/-- A number stays finite if there is room for its exponent. -/
theorem isFinite_unpack_pack {hpos : 0 < mantissa} (h : exponent ≤ 971) :
  (unpack .binary64 (pack .binary64 (.finite sign mantissa exponent hpos))).isFinite = true
  := by
  have hroom : (exponent + Format.binary64.exponentBias +
      Format.binary64.mantissaBitsWithoutImplicit).toNat < 2047 := by
    show (exponent + 1023 + (52 : Nat)).toNat < 2047
    omega
  rw [isFinite_unpack_iff]
  unfold pack
  generalize (exponent + Format.binary64.exponentBias +
    Format.binary64.mantissaBitsWithoutImplicit).toNat = biased at hroom ⊢
  have hbiased : (BitVec.ofNat Format.binary64.exponentBits biased).toNat = biased :=
    Nat.mod_eq_of_lt (Nat.lt_succ_of_lt hroom)
  rw [if_neg]
  case hnc => exact Nat.not_le.mpr (Nat.succ_lt_succ hroom)
  split
  · rw [unpackExponent_packComponents]
    intro heq
    rw [heq] at hbiased
    exact Nat.ne_of_gt hroom hbiased
  · rw [unpackExponent_packComponents]
    decide

/-- Numbers of single precision have at most 24 binary digits. -/
theorem bounds_of_unpack {bits : BitVec Format.binary32.numBits} {hpos : 0 < mantissa}
    (h : unpack .binary32 bits = .finite sign mantissa exponent hpos) :
  mantissa < 16777216 ∧ -149 ≤ exponent ∧ exponent ≤ 104
  := by
  have hmantissa : (unpackMantissa bits).toNat < 8388608 := (unpackMantissa bits).isLt
  have hexponent : (unpackExponent bits).toNat < 256 := (unpackExponent bits).isLt
  have hbias : (Format.binary32.exponentBias + Format.binary32.mantissaBitsWithoutImplicit : Int) =
    150 := rfl
  have hfinite : unpackExponent bits ≠ -BitVec.ofNat Format.binary32.exponentBits 1 := by
    rw [← isFinite_unpack_iff, h]
    rfl
  have hne : (unpackExponent bits).toNat ≠ 255 := by
    intro heq
    apply hfinite (BitVec.eq_of_toNat_eq heq)
  by_cases hleast : unpackExponent bits = BitVec.ofNat Format.binary32.exponentBits 0
  · have hsubnormal : (unpackExponent bits).toNat = 0 := by
      rw [hleast]
      rfl
    obtain hzero | ⟨_, hunpack⟩ := unpack_subnormal hfinite hleast
    · rw [h] at hzero
      contradiction
    · rw [h, finite.injEq, hbias] at hunpack
      omega
  · have hnormal : (unpackExponent bits).toNat ≠ 0 := by
      intro heq
      apply hleast (BitVec.eq_of_toNat_eq heq)
    have hdigits : (1#1 ++ unpackMantissa bits).toNat < 16777216 :=
      (1#1 ++ unpackMantissa bits).isLt
    obtain ⟨_, hunpack⟩ := unpack_normal hfinite hleast
    rw [h, finite.injEq, hbias] at hunpack
    omega

theorem log2_shiftLeft (hpos : 0 < mantissa) (places : Nat) :
  (mantissa <<< places).log2 = mantissa.log2 + places
  := by
  induction places with
  | zero => rfl
  | succ places ih =>
    have hmore : mantissa <<< places ≠ 0 := by
      rw [Nat.shiftLeft_eq]
      apply Nat.mul_ne_zero (Nat.ne_of_gt hpos) (Nat.ne_of_gt (Nat.two_pow_pos places))
    rw [Nat.shiftLeft_succ, Nat.log2_two_mul hmore, ih]
    rfl

theorem totalExponent_shiftLeft (hpos : 0 < mantissa) (places : Nat) :
  totalExponent (mantissa <<< places) (exponent - places) = totalExponent mantissa exponent
  := by
  rw [totalExponent, totalExponent, log2_shiftLeft hpos]
  omega

theorem shiftToTargetExponent_eq
    (h : format.targetExponent (totalExponent mantissa exponent) ≤ exponent) :
  shiftToTargetExponent format mantissa exponent .exact = (⟨mantissa, false, false⟩, exponent)
  := by
  rw [shiftToTargetExponent, shiftToExponent, Int.toNat_of_nonpos (by omega)]
  simp [ExtendedMantissa.ofMantissaAndAccuracy, HShiftRight.hShiftRight, Nat.repeat]

/-- What rounding makes of the digits that are left after each of the two shifts. -/
theorem roundWithAccuracy_of_shift {accuracy : Accuracy} {shifted last : ExtendedMantissa}
    {between final : Int} (hpos : 0 < last.mantissa)
    (hshift : shiftToTargetExponent format mantissa exponent accuracy = (shifted, between))
    (hlast : shiftToTargetExponent format shifted.roundedMantissa between .exact = (last, final)) :
  roundWithAccuracy format sign mantissa exponent accuracy =
    .finite sign last.mantissa final hpos
  := by
  rw [roundWithAccuracy, hshift]
  dsimp only
  rw [hlast]
  exact dif_neg (Nat.ne_of_gt hpos)

/-- A number whose last digit has a place in a format is rounded to itself. -/
theorem roundWithAccuracy_eq (hpos : 0 < mantissa)
    (h : format.targetExponent (totalExponent mantissa exponent) ≤ exponent) :
  roundWithAccuracy format sign mantissa exponent .exact = .finite sign mantissa exponent hpos
  := by
  have hshift := shiftToTargetExponent_eq h
  exact roundWithAccuracy_of_shift hpos hshift hshift

/-- A number that fits a format takes the exponent that the format has for it. -/
theorem round_eq (sign : Sign) (hpos : 0 < mantissa)
    (h : format.targetExponent (totalExponent mantissa exponent) ≤ exponent) :
  ∃ mantissa' hpos', UnpackedFloat.round format sign mantissa exponent =
    .finite sign mantissa' (format.targetExponent (totalExponent mantissa exponent)) hpos'
  := by
  generalize htarget : format.targetExponent (totalExponent mantissa exponent) = target at h
  generalize hplaces : (exponent - target).toNat = places
  have hback : exponent - (places : Int) = target := by omega
  have hmore : 0 < mantissa <<< places := by
    rw [Nat.shiftLeft_eq]
    apply Nat.mul_pos hpos (Nat.two_pow_pos places)
  use mantissa <<< places, hmore
  rw [UnpackedFloat.round, htarget, decreaseExponent]
  dsimp only
  rw [hplaces, hback]
  apply roundWithAccuracy_eq
  rw [← hback, totalExponent_shiftLeft hpos, htarget]
  exact Int.le_of_eq hback.symm

theorem isFinite_widen (x : Float32) :
  (widen x).isFinite = x.isFinite
  := by
  have hwiden : (widen x).isFinite =
    (unpack .binary64 (pack .binary64 (rounded .binary64 x.toModel.unpack))).isFinite := rfl
  have hfinite : x.isFinite = x.toModel.unpack.isFinite := rfl
  rw [hwiden, hfinite]
  cases hunpack : x.toModel.unpack with
  | infinity sign => cases sign <;> rfl
  | notANumber => rfl
  | zero sign => cases sign <;> rfl
  | finite sign mantissa exponent hpos =>
    obtain ⟨hmantissa, hlow, hhigh⟩ := bounds_of_unpack hunpack
    have hdigits : mantissa.log2 < 24 := (Nat.log2_lt (Nat.ne_of_gt hpos)).mpr hmantissa
    have htarget : Format.binary64.targetExponent (totalExponent mantissa exponent) ≤ exponent := by
      show max (mantissa.log2 + 1 + exponent - (53 : Nat)) (-1074) ≤ exponent
      omega
    obtain ⟨mantissa', hpos', hround⟩ := round_eq sign hpos htarget
    show (unpack .binary64 (pack .binary64
      (UnpackedFloat.round .binary64 sign mantissa exponent))).isFinite = true
    rw [hround]
    apply isFinite_unpack_pack
    omega

/-- Only finite numbers of single precision are near themselves. -/
theorem isNear_widen_self (x : Float32) :
  isNear (widen x) (widen x) = x.isFinite
  := by
  rw [isNear_self, isFinite_widen]

/-- A number that is too large for single precision is not. -/
example : isNear (widen (narrow 1e38)) (widen (narrow 1e38)) = true ∧
    isNear (widen (narrow 1e39)) (widen (narrow 1e39)) = false := by
  decide +kernel

end Precision

end LumpRules
