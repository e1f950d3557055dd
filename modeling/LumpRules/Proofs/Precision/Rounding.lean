import LumpRules.Proofs.Precision

/-!
# Numbers with 53 binary digits

Rounding to double precision leaves 53 binary digits of every number that is not too small: the
digits behind them are cut off and the last one may be raised by one (`roundedMantissa_bounds`); if
this makes one digit more, the last is a zero, which is dropped (`exists_shiftToTargetExponent`).
So the result is a `Normal` number, and its exponent is known up to one (`exists_roundWithAccuracy`,
`exists_round`).  In double precision such a number is kept as it is, or infinite if there is no
room for its exponent (`Normal.unpack_toFloat`, `Normal.toFloat_overflow`).
-/

namespace LumpRules.Precision

open Float.Model (Format UnpackedFloat totalExponent)
open Float.Model.UnpackedFloat

variable {format : Format} {sign : Sign} {mantissa places : Nat} {exponent : Int}

/-- The number of double precision that a rounded number is. -/
def double (x : UnpackedFloat) : Float :=
  ⟨.pack x⟩

theorem ne_zero_of_log2 (h : 0 < mantissa.log2) :
  mantissa ≠ 0
  := by
  rintro rfl
  contradiction

/-- The bounds of the numbers with a given count of binary digits. -/
theorem bounds_of_log2 (hpos : 0 < places) (h : mantissa.log2 = places) :
  2 ^ places ≤ mantissa ∧ mantissa < 2 ^ (places + 1)
  := (Nat.log2_eq_iff (ne_zero_of_log2 (by omega))).mp h

/-- A finite number whose mantissa has 53 binary digits. -/
structure Normal where
  sign : Sign
  mantissa : Nat
  exponent : Int
  digits : mantissa.log2 = 52

namespace Normal

theorem bounds (x : Normal) :
  2 ^ 52 ≤ x.mantissa ∧ x.mantissa < 2 ^ 53
  := bounds_of_log2 (by decide) x.digits

theorem pos (x : Normal) :
  0 < x.mantissa
  := Nat.lt_of_lt_of_le (Nat.two_pow_pos 52) x.bounds.1

/-- The number without bounds on its exponent. -/
def number (x : Normal) : UnpackedFloat :=
  .finite x.sign x.mantissa x.exponent x.pos

/-- The number in double precision. -/
def toFloat (x : Normal) : Float :=
  double x.number

end Normal

/-! ### Packing -/

theorem unpackSign_packComponents {field : BitVec format.exponentBits}
    {digits : BitVec format.mantissaBitsWithoutImplicit} :
  unpackSign (packComponents format sign field digits) = sign.toBitVec
  := by
  ext i hi
  obtain rfl : i = 0 := Nat.lt_one_iff.mp hi
  unfold unpackSign
  simp [packComponents, BitVec.getLsbD_append, BitVec.getElem_append]

namespace Normal

/-- The first of the 53 digits is not stored. -/
theorem toNat_digits (x : Normal) :
  (1#1 ++ BitVec.ofNat 52 x.mantissa).toNat = x.mantissa
  := by
  obtain ⟨hlow, hhigh⟩ := x.bounds
  have hor : 4503599627370496 * 1 + x.mantissa % 4503599627370496 =
      4503599627370496 ||| x.mantissa % 4503599627370496 :=
    Nat.two_pow_add_eq_or_of_lt (i := 52) (Nat.mod_lt _ (by decide)) 1
  rw [BitVec.toNat_append, BitVec.toNat_ofNat]
  show 4503599627370496 ||| x.mantissa % 4503599627370496 = x.mantissa
  omega

/-- A number whose exponent has room is kept as it is. -/
theorem unpack_toFloat (x : Normal) (hlow : -1074 ≤ x.exponent) (hhigh : x.exponent ≤ 971) :
  x.toFloat.toModel.unpack = x.number
  := by
  have hsign : Sign.ofBitVec x.sign.toBitVec = x.sign := by
    cases x.sign <;> rfl
  have hlast : x.mantissa.log2 + 1 = Format.binary64.mantissaBits := by
    rw [x.digits]
    rfl
  generalize hbiased : (x.exponent + Format.binary64.exponentBias +
    Format.binary64.mantissaBitsWithoutImplicit).toNat = biased
  have hexponent : (biased : Int) = x.exponent + 1075 := by
    have heq : (x.exponent + 1023 + (52 : Nat)).toNat = biased := hbiased
    omega
  have hfield : (BitVec.ofNat Format.binary64.exponentBits biased).toNat = biased :=
    Nat.mod_eq_of_lt (show biased < 2048 by omega)
  have hfinite : BitVec.ofNat Format.binary64.exponentBits biased ≠ -1#11 := by
    intro heq
    have hones : 2047 = biased := (congrArg BitVec.toNat heq).symm.trans hfield
    omega
  have hnormal : BitVec.ofNat Format.binary64.exponentBits biased ≠ 0#11 := by
    intro heq
    have hzero : 0 = biased := (congrArg BitVec.toNat heq).symm.trans hfield
    omega
  have hroom : ¬ 2048 ≤ biased + 1 := by omega
  have hpack : pack .binary64 x.number = packComponents .binary64 x.sign
      (BitVec.ofNat Format.binary64.exponentBits biased)
      (BitVec.ofNat Format.binary64.mantissaBitsWithoutImplicit x.mantissa) := by
    unfold number pack
    rw [hbiased]
    exact (if_neg hroom).trans (if_pos hlast)
  have hpart : unpackExponent (pack .binary64 x.number) =
      BitVec.ofNat Format.binary64.exponentBits biased := by
    rw [hpack, unpackExponent_packComponents]
  obtain ⟨hpos, hunpack⟩ := unpack_normal (hpart.trans_ne hfinite) (hpart.trans_ne hnormal)
  show unpack .binary64 (pack .binary64 x.number) = .finite x.sign x.mantissa x.exponent x.pos
  rw [hunpack, UnpackedFloat.finite.injEq, hpart, hpack, unpackSign_packComponents,
    unpackMantissa_packComponents, hfield, hexponent]
  exact ⟨hsign, x.toNat_digits, Int.add_sub_cancel x.exponent 1075⟩

/-- A number whose exponent is too large is infinite. -/
theorem toFloat_overflow (x : Normal) (h : 971 < x.exponent) :
  x.toFloat = double (.infinity x.sign)
  := by
  have hroom : 2048 ≤ (x.exponent + Format.binary64.exponentBias +
      Format.binary64.mantissaBitsWithoutImplicit).toNat + 1 := by
    show 2048 ≤ (x.exponent + 1023 + (52 : Nat)).toNat + 1
    omega
  have hpack : pack .binary64 x.number = pack .binary64 (.infinity x.sign) := by
    unfold number pack
    exact if_pos hroom
  rw [toFloat, double, double, Float.Model.pack, Float.Model.pack]
  congr 3

end Normal

/-! ### Rounding -/

theorem targetExponent_binary64 (total : Int) :
  Format.binary64.targetExponent total = max (total - 53) (-1074)
  := rfl

theorem mantissa_shiftRight (extended : ExtendedMantissa) (places : Nat) :
  (extended >>> places).mantissa = extended.mantissa / 2 ^ places
  := by
  show (places.repeat ExtendedMantissa.shiftRightOne extended).mantissa = _
  induction places with
  | zero => exact (Nat.div_one _).symm
  | succ places ih =>
    show (places.repeat ExtendedMantissa.shiftRightOne extended).mantissa / 2 = _
    rw [ih, Nat.div_div_eq_div_mul, Nat.pow_succ]

/-- The digits that are taken off leave the first of them, and whether there is another one that is
not zero. -/
theorem shiftRight_succ (mantissa places : Nat) :
  (⟨mantissa, false, false⟩ : ExtendedMantissa) >>> (places + 1) =
    ⟨mantissa / 2 ^ (places + 1), mantissa / 2 ^ places % 2 != 0, mantissa % 2 ^ places != 0⟩
  := by
  induction places with
  | zero => simp [HShiftRight.hShiftRight, Nat.repeat, ExtendedMantissa.shiftRightOne, Nat.mod_one]
  | succ places ih =>
    have hsticky : (mantissa / 2 ^ places % 2 != 0 || mantissa % 2 ^ places != 0) =
        (mantissa % 2 ^ (places + 1) != 0) := by
      have hpower := Nat.two_pow_pos places
      rw [Nat.mod_pow_succ, Bool.eq_iff_iff]
      simp only [Bool.or_eq_true, bne_iff_ne, ne_eq, Nat.add_eq_zero_iff, Nat.mul_eq_zero]
      omega
    show ((⟨mantissa, false, false⟩ : ExtendedMantissa) >>> (places + 1)).shiftRightOne = _
    rw [ih, ExtendedMantissa.shiftRightOne]
    simp only [hsticky, Nat.div_div_eq_div_mul, Nat.pow_succ]

/-- The last digit is raised by at most one. -/
theorem roundedMantissa_bounds (extended : ExtendedMantissa) :
  extended.mantissa ≤ extended.roundedMantissa ∧
    extended.roundedMantissa ≤ extended.mantissa + 1
  := by
  obtain ⟨mantissa, roundBit, stickyBit⟩ := extended
  have hparity : mantissa % 2 ≤ 1 := by omega
  cases roundBit <;> cases stickyBit <;>
    simp [ExtendedMantissa.roundedMantissa, ExtendedMantissa.accuracy, Accuracy.roundToNearestEven]
  omega

theorem log2_div (hpos : 0 < mantissa) (h : places ≤ mantissa.log2) :
  (mantissa / 2 ^ places).log2 = mantissa.log2 - places
  := by
  obtain ⟨hlow, hhigh⟩ := (Nat.log2_eq_iff (Nat.ne_of_gt hpos)).mp rfl
  have hplaces : 0 < 2 ^ places := Nat.two_pow_pos places
  have hquotient : 2 ^ (mantissa.log2 - places) ≤ mantissa / 2 ^ places := by
    rwa [Nat.le_div_iff_mul_le hplaces, ← Nat.pow_add, Nat.sub_add_cancel h]
  have hne : mantissa / 2 ^ places ≠ 0 :=
    Nat.ne_of_gt (Nat.lt_of_lt_of_le (Nat.two_pow_pos _) hquotient)
  rw [Nat.log2_eq_iff hne]
  use hquotient
  rwa [Nat.div_lt_iff_lt_mul hplaces, ← Nat.pow_add, Nat.add_right_comm, Nat.sub_add_cancel h]

/-- Digits are taken off up to the place of the target. -/
theorem shiftToTargetExponent_shift (places : Nat) {target : Int}
    (htarget : format.targetExponent (totalExponent mantissa exponent) = target)
    (hplaces : exponent + places = target) :
  shiftToTargetExponent format mantissa exponent .exact =
    ((⟨mantissa, false, false⟩ : ExtendedMantissa) >>> places, target)
  := by
  have hamount : (target - exponent).toNat = places := by omega
  rw [shiftToTargetExponent, shiftToExponent, htarget, hamount, hplaces]
  rfl

/-- Only the digits that are left after the first rounding matter. -/
theorem roundWithAccuracy_congr (sign : Sign) (places : Nat) {target : Int}
    (htarget : format.targetExponent (totalExponent mantissa exponent) = target)
    (htarget' : format.targetExponent (totalExponent mantissa' exponent) = target)
    (hplaces : exponent + places = target)
    (hrounded : ((⟨mantissa, false, false⟩ : ExtendedMantissa) >>> places).roundedMantissa =
      ((⟨mantissa', false, false⟩ : ExtendedMantissa) >>> places).roundedMantissa) :
  roundWithAccuracy format sign mantissa exponent .exact =
    roundWithAccuracy format sign mantissa' exponent .exact
  := by
  rw [roundWithAccuracy, roundWithAccuracy, shiftToTargetExponent_shift places htarget hplaces,
    shiftToTargetExponent_shift places htarget' hplaces]
  dsimp only
  rw [hrounded]

/-- If the last of 53 digits was raised, there may be one digit more, which is taken off. -/
theorem exists_shiftToTargetExponent (exponent : Int) {rounded : Nat}
    (hdigits : mantissa.log2 = 52) (hexponent : -1074 ≤ exponent)
    (hbounds : mantissa ≤ rounded ∧ rounded ≤ mantissa + 1) :
  ∃ extended exponent',
    shiftToTargetExponent .binary64 rounded exponent .exact = (extended, exponent') ∧
    extended.mantissa.log2 = 52 ∧ exponent ≤ exponent' ∧ exponent' ≤ exponent + 1
  := by
  obtain ⟨hlow, hhigh⟩ := bounds_of_log2 (by decide) hdigits
  by_cases hfits : rounded < 2 ^ 53
  · have hlog : rounded.log2 = 52 := (Nat.log2_eq_iff (by omega)).mpr ⟨by omega, hfits⟩
    have htarget : Format.binary64.targetExponent (totalExponent rounded exponent) = exponent := by
      rw [targetExponent_binary64, totalExponent, hlog]
      omega
    have hshift := shiftToTargetExponent_shift 0 htarget (Int.add_zero exponent)
    exact ⟨_, _, hshift, hlog, Int.le_refl _, by omega⟩
  · obtain rfl : rounded = 2 ^ 53 := by omega
    have htarget : Format.binary64.targetExponent (totalExponent (2 ^ 53) exponent) =
        exponent + 1 := by
      rw [targetExponent_binary64, totalExponent, Nat.log2_two_pow]
      omega
    have hshift := shiftToTargetExponent_shift 1 htarget rfl
    exact ⟨_, _, hshift, by rw [mantissa_shiftRight]; rfl, by omega, Int.le_refl _⟩

/-- A rounded number has the exponent that goes with the first digit, or the next one. -/
structure Normal.Rounds (x : Normal) (sign : Sign) (total : Int) : Prop where
  sign_eq : x.sign = sign
  low : total - 53 ≤ x.exponent
  high : x.exponent ≤ total - 52

theorem exists_roundWithAccuracy (sign : Sign) (exponent : Int) (hpos : 0 < mantissa)
    (hlarge : -1021 ≤ totalExponent mantissa exponent)
    (h : exponent ≤ totalExponent mantissa exponent - 53) :
  ∃ x : Normal, roundWithAccuracy .binary64 sign mantissa exponent .exact = x.number ∧
    x.Rounds sign (totalExponent mantissa exponent)
  := by
  rw [totalExponent] at h hlarge ⊢
  obtain ⟨places, hlog⟩ := Nat.exists_eq_add_of_le (show 52 ≤ mantissa.log2 by omega)
  have htarget : Format.binary64.targetExponent (totalExponent mantissa exponent) =
      exponent + places := by
    rw [targetExponent_binary64, totalExponent]
    omega
  have hdigits : (mantissa / 2 ^ places).log2 = 52 := by
    rw [log2_div hpos (by omega)]
    omega
  have hbounds :=
    roundedMantissa_bounds ((⟨mantissa, false, false⟩ : ExtendedMantissa) >>> places)
  rw [mantissa_shiftRight] at hbounds
  obtain ⟨extended, exponent', hshift, hlast, hlow, hhigh⟩ :=
    exists_shiftToTargetExponent (exponent + places) hdigits (by omega) hbounds
  let x : Normal := ⟨sign, extended.mantissa, exponent', hlast⟩
  refine ⟨x, ?_, rfl, show _ ≤ exponent' by omega, show exponent' ≤ _ by omega⟩
  exact roundWithAccuracy_of_shift x.pos (shiftToTargetExponent_shift places htarget rfl) hshift

theorem exists_round (sign : Sign) (exponent : Int) (hpos : 0 < mantissa)
    (hlarge : -1021 ≤ totalExponent mantissa exponent) :
  ∃ x : Normal, UnpackedFloat.round .binary64 sign mantissa exponent = x.number ∧
    x.Rounds sign (totalExponent mantissa exponent)
  := by
  have htarget : Format.binary64.targetExponent (totalExponent mantissa exponent) =
      totalExponent mantissa exponent - 53 := by
    rw [targetExponent_binary64]
    omega
  rw [UnpackedFloat.round, htarget, decreaseExponent]
  simp only
  generalize hplaces : (exponent - (totalExponent mantissa exponent - 53)).toNat = places
  have hmore : 0 < mantissa <<< places := by
    rw [Nat.shiftLeft_eq]
    apply Nat.mul_pos hpos (Nat.two_pow_pos places)
  rw [← totalExponent_shiftLeft hpos places] at hlarge hplaces ⊢
  apply exists_roundWithAccuracy sign _ hmore hlarge
  omega

end LumpRules.Precision
