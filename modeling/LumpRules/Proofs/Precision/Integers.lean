import LumpRules.Proofs.Precision.Rounding

/-!
# Integers in double precision

A positive integer becomes a number with 53 binary digits (`exists_ofNat`), and so does a negative
one (`exists_ofInt`).  If it has more than 63 digits, the tolerance makes no difference: only those
integers are near it that become the same number (`isNear_ofInt_iff`).  For the difference to
another number is at least one (`Normal.log2_difference`), and rounding leaves it larger than the
tolerance (`Normal.not_abs_le_tolerance`).  With 64 digits there is always another integer that
becomes the same number (`exists_ofNat_eq`).
-/

namespace LumpRules.Precision

open Float.Model (Format UnpackedFloat totalExponent)
open Float.Model.UnpackedFloat

variable {format : Format} {sign sign' : Sign} {mantissa mantissa' places : Nat}
  {exponent exponent' : Int} {x y : Normal}

/-! ### Conversion -/

theorem ofInt_natCast {n : Nat} (hpos : 0 < n) :
  UnpackedFloat.ofInt .binary64 n = .round .binary64 .positive n 0
  := by
  have hcompare : compare (n : Int) 0 = .gt := Int.compare_eq_gt.mpr (by omega)
  simp only [UnpackedFloat.ofInt, UnpackedFloat.normalize, hcompare]
  rfl

theorem ofScientific_natCast {n : Nat} (hpos : 0 < n) :
  UnpackedFloat.ofScientific .binary64 n 0 =
    roundWithAccuracy .binary64 .positive (n <<< 53 * 1) (-53) .exact
  := by
  have hnear : ¬ (0 : Int) > 2 ^ Format.binary64.exponentBits := by decide
  have hfar : ¬ (0 : Int) < -((2 ^ Format.binary64.exponentBits : Int) + n.log2) := by
    show ¬ (0 : Int) < -(2048 + n.log2)
    omega
  rw [UnpackedFloat.ofScientific, dif_neg (Nat.ne_of_gt hpos), if_neg hnear, if_neg hfar,
    if_pos (Int.le_refl 0)]
  rfl

/-- A number that an integer becomes in double precision. -/
structure Normal.Converts (x : Normal) (sign : Sign) (n : Nat) : Prop where
  sign_eq : x.sign = sign
  low : (n.log2 : Int) - 52 ≤ x.exponent
  high : x.exponent ≤ n.log2 - 50

theorem exists_ofNat_of_lt {n : Nat} (hpos : 0 < n) (hsmall : n < 2 ^ 53) :
  ∃ x : Normal, n.toUInt64.toFloat * Float.exactlyRepresentablePowersOfTen[0] = x.toFloat ∧
    x.Converts .positive n
  := by
  have hword : n.toUInt64.toNat = n := Nat.mod_eq_of_lt (by omega)
  have hlog : n.log2 < 53 := (Nat.log2_lt (Nat.ne_of_gt hpos)).mpr hsmall
  obtain ⟨x, hround, hx⟩ := exists_round .positive 0 hpos (by rw [totalExponent]; omega)
  have hlow := hx.low
  have hhigh := hx.high
  rw [totalExponent] at hlow hhigh
  have hinteger : n.toUInt64.toFloat.toModel.unpack = x.number := by
    show (double (UnpackedFloat.ofInt .binary64 n.toUInt64.toNat)).toModel.unpack = _
    rw [hword, ofInt_natCast hpos, hround]
    exact x.unpack_toFloat (by omega) (by omega)
  have hone : Float.exactlyRepresentablePowersOfTen[0].toModel.unpack =
      .finite .positive 4503599627370496 (-52) (by decide) := rfl
  -- the product with one is rounded again
  have hproduct : 0 < x.mantissa * 4503599627370496 := Nat.mul_pos x.pos (by decide)
  have htotal : totalExponent (x.mantissa * 4503599627370496) (x.exponent + -52) =
      x.exponent + 53 := by
    have hshift : x.mantissa * 4503599627370496 = x.mantissa <<< 52 :=
      (Nat.shiftLeft_eq x.mantissa 52).symm
    rw [hshift, totalExponent, log2_shiftLeft x.pos, x.digits]
    omega
  obtain ⟨y, hround', hy⟩ := exists_roundWithAccuracy .positive (x.exponent + -52) hproduct
    (by omega) (by omega)
  have hlow' := hy.low
  have hhigh' := hy.high
  refine ⟨y, ?_, hy.sign_eq, by omega, by omega⟩
  show double (.mul .binary64 n.toUInt64.toFloat.toModel.unpack
    Float.exactlyRepresentablePowersOfTen[0].toModel.unpack) = _
  rw [hinteger, hone, Normal.number, hx.sign_eq, Normal.toFloat, ← hround']
  rfl

/-- An integer with more than 53 digits is rounded once. -/
theorem ofNat_of_le {n : Nat} (h : 2 ^ 53 ≤ n) :
  Float.ofNat n = double (roundWithAccuracy .binary64 .positive (n <<< 53 * 1) (-53) .exact)
  := by
  have hofNat : Float.ofNat n = Float.ofScientific n false 0 := rfl
  rw [hofNat, Float.ofScientific, dif_neg (by omega), ← ofScientific_natCast (by omega)]
  rfl

theorem totalExponent_natCast {n : Nat} (hpos : 0 < n) :
  totalExponent (n <<< 53 * 1) (-53) = n.log2 + 1
  := by
  rw [Nat.mul_one, totalExponent, log2_shiftLeft hpos]
  omega

/-- A positive integer in double precision. -/
theorem exists_ofNat {n : Nat} (hpos : 0 < n) :
  ∃ x : Normal, Float.ofNat n = x.toFloat ∧ x.Converts .positive n
  := by
  by_cases hsmall : n < 2 ^ 53
  · have hofNat : Float.ofNat n =
        n.toUInt64.toFloat * Float.exactlyRepresentablePowersOfTen[0] := by
      show Float.ofScientific n false 0 = _
      rw [Float.ofScientific, dif_pos ⟨hsmall, by decide⟩]
      rfl
    rw [hofNat]
    exact exists_ofNat_of_lt hpos hsmall
  · have hlog : 53 ≤ n.log2 := by
      rw [Nat.le_log2 (Nat.ne_of_gt hpos)]
      omega
    have hmore : 0 < n <<< 53 * 1 := by
      rw [Nat.shiftLeft_eq]
      omega
    have htotal := totalExponent_natCast hpos
    obtain ⟨x, hround, hx⟩ := exists_roundWithAccuracy .positive (-53) hmore (by omega) (by omega)
    have hlow := hx.low
    have hhigh := hx.high
    refine ⟨x, ?_, hx.sign_eq, by omega, by omega⟩
    rw [ofNat_of_le (by omega), hround]
    rfl

/-- The number with the other sign. -/
def Normal.neg (x : Normal) : Normal :=
  { x with sign := -x.sign }

theorem Normal.neg_toFloat (x : Normal) (hlow : -1074 ≤ x.exponent) :
  x.toFloat.neg = x.neg.toFloat
  := by
  by_cases hroom : x.exponent ≤ 971
  · show double (.neg x.toFloat.toModel.unpack) = _
    rw [x.unpack_toFloat hlow hroom]
    rfl
  · rw [x.toFloat_overflow (by omega), x.neg.toFloat_overflow (show 971 < x.exponent by omega),
      Normal.neg]
    cases x.sign <;> rfl

/-- An integer other than zero in double precision. -/
theorem exists_ofInt {n : Int} (h : n ≠ 0) :
  ∃ sign, ∃ x : Normal, Float.ofInt n = x.toFloat ∧ x.Converts sign n.natAbs
  := by
  cases n with
  | ofNat n =>
    have hpos : 0 < n := Nat.pos_of_ne_zero fun hzero => h (congrArg Int.ofNat hzero)
    use .positive
    exact exists_ofNat hpos
  | negSucc n =>
    obtain ⟨x, hx, hconverts⟩ := exists_ofNat (Nat.succ_pos n)
    have hlow := hconverts.low
    refine ⟨-x.sign, x.neg, ?_, rfl, hlow, hconverts.high⟩
    rw [← x.neg_toFloat (by omega), ← hx]
    rfl

/-- An integer with more than 1024 binary digits is infinite in double precision. -/
theorem ofNat_overflow {n : Nat} (h : 1024 ≤ n.log2) :
  Float.ofNat n = 1.0 / 0.0
  := by
  have hne : n ≠ 0 := ne_zero_of_log2 (by omega)
  obtain ⟨x, hx, hconverts⟩ := exists_ofNat (Nat.pos_of_ne_zero hne)
  have hlow := hconverts.low
  rw [hx, x.toFloat_overflow (by omega), hconverts.sign_eq]
  rfl

/-! ### Nearness -/

theorem le_iff {a b : Float} :
  a ≤ b ↔ a.toModel.unpack.le b.toModel.unpack = true
  := decide_eq_true_iff

theorem isNear_iff {a b : Float} :
  isNear a b = true ↔
    (double (.sub .binary64 a.toModel.unpack b.toModel.unpack)).abs ≤ tolerance
  := decide_eq_true_iff

theorem abs_eq (a : Float) :
  a.abs = double a.toModel.unpack.abs
  := rfl

/-- The tolerance has 53 digits as well. -/
theorem unpack_tolerance :
  tolerance.toModel.unpack = .finite .positive 4611686018427388 (-62) (by decide)
  := rfl

theorem not_abs_infinity_le (sign : Sign) :
  ¬ (double (.infinity sign)).abs ≤ tolerance
  := by
  cases sign <;> decide +kernel

/-- A number of which each digit counts for more than the last digit of the tolerance. -/
theorem Normal.not_abs_le_tolerance (x : Normal) (h : -61 ≤ x.exponent) :
  ¬ x.toFloat.abs ≤ tolerance
  := by
  by_cases hroom : x.exponent ≤ 971
  · let magnitude : Normal := { x with sign := .positive }
    have habs : x.toFloat.abs = magnitude.toFloat := by
      rw [abs_eq, x.unpack_toFloat (by omega) hroom]
      rfl
    have hcompare : compare x.exponent (-62) = .gt := Int.compare_eq_gt.mpr (by omega)
    rw [le_iff, habs, magnitude.unpack_toFloat (show -1074 ≤ x.exponent by omega) hroom,
      unpack_tolerance]
    show ¬ ((compare x.exponent (-62)).then (compare x.mantissa 4611686018427388)).isLE = true
    rw [hcompare]
    exact Bool.false_ne_true
  · rw [x.toFloat_overflow (by omega)]
    exact not_abs_infinity_le x.sign

theorem normalize_of_ne_zero {value : Int} (h : value ≠ 0) :
  ∃ sign, UnpackedFloat.normalize format value exponent .positive =
    .round format sign value.natAbs exponent
  := by
  rcases Int.lt_or_gt_of_ne h with hneg | hpos
  · have hcompare : compare value 0 = .lt := Int.compare_eq_lt.mpr hneg
    have hmagnitude : (-value).toNat = value.natAbs := by omega
    use .negative
    simp only [UnpackedFloat.normalize, hcompare, hmagnitude]
  · have hcompare : compare value 0 = .gt := Int.compare_eq_gt.mpr hpos
    have hmagnitude : value.toNat = value.natAbs := by omega
    use .positive
    simp only [UnpackedFloat.normalize, hcompare, hmagnitude]

namespace Normal

/-- The mantissa with its sign and with zeros behind it, down to the place of an exponent. -/
def scaled (x : Normal) (lowest : Int) : Int :=
  x.sign.apply (x.mantissa <<< (x.exponent - lowest).toNat : Nat)

theorem natAbs_scaled (x : Normal) (lowest : Int) :
  (x.scaled lowest).natAbs = x.mantissa <<< (x.exponent - lowest).toNat
  := by
  rw [scaled]
  cases x.sign with
  | positive => exact Int.natAbs_natCast _
  | negative => exact (Int.natAbs_neg _).trans (Int.natAbs_natCast _)

theorem scaled_self (x : Normal) :
  x.scaled x.exponent = x.sign.apply x.mantissa
  := by
  rw [scaled, Int.sub_self]
  rfl

/-- A number is written with 53 digits in one way only. -/
theorem eq_of_scaled
    (h : x.scaled (min x.exponent y.exponent) = y.scaled (min x.exponent y.exponent)) :
  x = y
  := by
  have hexponent : x.exponent = y.exponent := by
    have hplaces := congrArg (fun value => Nat.log2 value.natAbs) h
    simp only [natAbs_scaled, log2_shiftLeft x.pos, log2_shiftLeft y.pos, x.digits, y.digits]
      at hplaces
    omega
  rw [← hexponent, Int.min_self, x.scaled_self, hexponent, y.scaled_self] at h
  have hpos := x.pos
  have hpos' := y.pos
  obtain ⟨sign, mantissa, exponent, hdigits⟩ := x
  obtain ⟨sign', mantissa', exponent', hdigits'⟩ := y
  obtain rfl : exponent = exponent' := hexponent
  cases sign <;> cases sign' <;> simp only [Sign.apply] at h hpos hpos'
  · obtain rfl : mantissa = mantissa' := by omega
    rfl
  · omega
  · omega
  · obtain rfl : mantissa = mantissa' := by omega
    rfl

/-- The difference of a large number and another one is at least as large as one, unless it is
zero. -/
theorem log2_difference (h : 11 ≤ y.exponent) :
  0 ≤ ((x.scaled (min x.exponent y.exponent) -
    y.scaled (min x.exponent y.exponent)).natAbs.log2 : Int) + min x.exponent y.exponent
  := by
  by_cases hwhole : 0 ≤ x.exponent
  · omega
  · obtain ⟨places, hplaces⟩ := Int.eq_ofNat_of_zero_le (show 0 ≤ -x.exponent by omega)
    have hmin : min x.exponent y.exponent = x.exponent := by omega
    have hsmall : (x.scaled x.exponent).natAbs < 2 ^ 53 := by
      rw [natAbs_scaled, Int.sub_self]
      exact x.bounds.2
    have hpower : 1 ≤ 2 ^ places := Nat.two_pow_pos places
    have hlarge : (2 ^ 53 + 1) * 2 ^ places ≤ (y.scaled x.exponent).natAbs := by
      have hshift : (y.exponent - x.exponent).toNat = y.exponent.toNat + places := by omega
      have heleven : 2 ^ 11 ≤ 2 ^ y.exponent.toNat := Nat.pow_le_pow_right (by decide) (by omega)
      rw [natAbs_scaled, hshift, Nat.shiftLeft_eq, Nat.pow_add, ← Nat.mul_assoc]
      apply Nat.mul_le_mul_right
      calc 2 ^ 53 + 1 ≤ 2 ^ 52 * 2 ^ 11 := by decide
        _ ≤ y.mantissa * 2 ^ y.exponent.toNat := Nat.mul_le_mul y.bounds.1 heleven
    have hdifference : 2 ^ places ≤ (x.scaled x.exponent - y.scaled x.exponent).natAbs := by
      omega
    have hlog : places ≤ (x.scaled x.exponent - y.scaled x.exponent).natAbs.log2 := by
      rwa [Nat.le_log2 (by omega)]
    rw [hmin]
    omega

/-- Nothing else is near a large number. -/
theorem eq_of_isNear (hlow : -1074 ≤ x.exponent) (hlarge : 11 ≤ y.exponent)
    (hroom : y.exponent ≤ 971) (h : isNear x.toFloat y.toFloat = true) :
  x = y
  := by
  rw [isNear_iff, y.unpack_toFloat (by omega) hroom] at h
  by_cases hroom' : x.exponent ≤ 971
  · rw [x.unpack_toFloat hlow hroom'] at h
    by_contra hne
    have hsub : UnpackedFloat.sub .binary64 x.number y.number =
        UnpackedFloat.normalize .binary64 (x.scaled (min x.exponent y.exponent) -
          y.scaled (min x.exponent y.exponent)) (min x.exponent y.exponent) .positive := rfl
    have hdifference := @log2_difference x y hlarge
    have hnonzero : x.scaled (min x.exponent y.exponent) - y.scaled (min x.exponent y.exponent) ≠
        0 := fun hzero => hne (eq_of_scaled (Int.sub_eq_zero.mp hzero))
    generalize x.scaled (min x.exponent y.exponent) - y.scaled (min x.exponent y.exponent) =
      difference at hsub hdifference hnonzero
    obtain ⟨sign, hnormalize⟩ :=
      @normalize_of_ne_zero .binary64 (min x.exponent y.exponent) _ hnonzero
    have htotal : 1 ≤ totalExponent difference.natAbs (min x.exponent y.exponent) := by
      rw [totalExponent]
      omega
    obtain ⟨z, hround, hz⟩ := exists_round sign _ (Int.natAbs_pos.mpr hnonzero)
      (Int.le_trans (by decide) htotal)
    have hz := hz.low
    rw [hsub, hnormalize, hround] at h
    exact z.not_abs_le_tolerance (by omega) h
  · have hsub : UnpackedFloat.sub .binary64 (double (.infinity x.sign)).toModel.unpack y.number =
        .infinity x.sign := by
      cases x.sign <;> rfl
    rw [x.toFloat_overflow (by omega), hsub] at h
    exact (not_abs_infinity_le x.sign h).elim

/-- Zero is not near a large number. -/
theorem not_isNear_zero (hlarge : 11 ≤ y.exponent) (hroom : y.exponent ≤ 971) :
  ¬ isNear (Float.ofInt 0) y.toFloat = true
  := by
  have hsub : UnpackedFloat.sub .binary64 (Float.ofInt 0).toModel.unpack y.number =
      y.neg.number := rfl
  rw [isNear_iff, y.unpack_toFloat (by omega) hroom, hsub]
  exact y.neg.not_abs_le_tolerance (show -61 ≤ y.exponent by omega)

end Normal

/-- An integer is near one with more than 63 binary digits exactly if both are the same number in
double precision. -/
theorem isNear_ofInt_iff {n : Int} (hlow : 63 ≤ n.natAbs.log2) (hhigh : n.natAbs.log2 ≤ 1021)
    (m : Int) :
  isNear (Float.ofInt m) (Float.ofInt n) = true ↔ Float.ofInt m = Float.ofInt n
  := by
  have hne : n.natAbs ≠ 0 := ne_zero_of_log2 (by omega)
  obtain ⟨sign, y, hy, hconverts⟩ := exists_ofInt (Int.natAbs_ne_zero.mp hne)
  have hexponent := hconverts.low
  have hexponent' := hconverts.high
  have hroom : y.exponent ≤ 971 := by omega
  rw [hy]
  constructor
  · intro h
    by_cases hm : m = 0
    · rw [hm] at h
      exact (Normal.not_isNear_zero (by omega) hroom h).elim
    · obtain ⟨sign', x, hx, hconverts'⟩ := exists_ofInt hm
      have hsmall := hconverts'.low
      rw [hx] at h ⊢
      rw [Normal.eq_of_isNear (by omega) (by omega) hroom h]
  · intro h
    have hfinite : y.toFloat.isFinite = y.toFloat.toModel.unpack.isFinite := rfl
    rw [h, isNear_self, hfinite, y.unpack_toFloat (by omega) hroom]
    rfl

/-! ### Integers that become the same number -/

/-- The multiple of 2048 that is nearest to a number, by its factor; of two equally near ones the
one with the even factor. -/
def nearestMultiple (n : Nat) : Nat :=
  if n % 2048 < 1024 then n / 2048
  else if n % 2048 = 1024 then n / 2048 + n / 2048 % 2
  else n / 2048 + 1

theorem roundedMantissa_eq (n : Nat) :
  ((⟨n <<< 53 * 1, false, false⟩ : ExtendedMantissa) >>> 64).roundedMantissa = nearestMultiple n
  := by
  have hmantissa : n <<< 53 * 1 / 2 ^ 64 = n / 2048 := by
    rw [Nat.shiftLeft_eq]
    omega
  have hround : n <<< 53 * 1 / 2 ^ 63 % 2 = n / 1024 % 2 := by
    rw [Nat.shiftLeft_eq]
    omega
  have hsticky : n <<< 53 * 1 % 2 ^ 63 = n % 1024 * 2 ^ 53 := by
    rw [Nat.shiftLeft_eq]
    omega
  rw [shiftRight_succ, hmantissa, hround, hsticky, nearestMultiple]
  split
  · next hless =>
    have hbit : n / 1024 % 2 = 0 := by omega
    cases h : n % 1024 * 2 ^ 53 != 0 <;> simp [ExtendedMantissa.roundedMantissa, hbit,
      ExtendedMantissa.accuracy, Accuracy.roundToNearestEven]
  · split
    · next hhalf =>
      have hbit : n / 1024 % 2 = 1 := by omega
      have hzero : n % 1024 = 0 := by omega
      simp [ExtendedMantissa.roundedMantissa, hbit, hzero, ExtendedMantissa.accuracy,
        Accuracy.roundToNearestEven]
    · next hhalf =>
      have hbit : n / 1024 % 2 = 1 := by omega
      have hmore : (n % 1024 * 2 ^ 53 != 0) = true := by
        rw [bne_iff_ne]
        omega
      simp only [hmore, hbit]
      rfl

theorem exists_nearestMultiple_eq (n : Nat) :
  ∃ m, m ≠ n ∧ m / 2048 = n / 2048 ∧ nearestMultiple m = nearestMultiple n
  := by
  by_cases hdown : n % 2048 < 1024 ∧ n % 2048 ≠ 0 ∨ n % 2048 = 1024 ∧ n / 2048 % 2 = 0 ∨
      n % 2048 = 2047
  · refine ⟨n - 1, by omega, by omega, ?_⟩
    simp only [nearestMultiple]
    split <;> split <;> (try split) <;> (try split) <;> omega
  · refine ⟨n + 1, by omega, by omega, ?_⟩
    simp only [nearestMultiple]
    split <;> split <;> (try split) <;> (try split) <;> omega

/-- Integers with 64 binary digits become the same number if they have the same nearest multiple. -/
theorem ofNat_congr {m n : Nat} (hm : m.log2 = 63) (hn : n.log2 = 63)
    (h : nearestMultiple m = nearestMultiple n) :
  Float.ofNat m = Float.ofNat n
  := by
  have htarget : ∀ k : Nat, k.log2 = 63 →
      Format.binary64.targetExponent (totalExponent (k <<< 53 * 1) (-53)) = 11 := by
    intro k hk
    have hne : k ≠ 0 := ne_zero_of_log2 (by omega)
    rw [targetExponent_binary64, totalExponent_natCast (Nat.pos_of_ne_zero hne), hk]
    rfl
  have hround := roundWithAccuracy_congr .positive 64 (htarget m hm) (htarget n hn) (by decide)
    (by rw [roundedMantissa_eq, roundedMantissa_eq, h])
  have hlow := bounds_of_log2 (by decide) hm
  have hlow' := bounds_of_log2 (by decide) hn
  rw [ofNat_of_le (by omega), ofNat_of_le (by omega), hround]

/-- Of 64 binary digits eleven are rounded away, so that another integer becomes the same
number. -/
theorem exists_ofNat_eq {n : Nat} (h : n.log2 = 63) :
  ∃ m, m ≠ n ∧ Float.ofNat m = Float.ofNat n
  := by
  obtain ⟨hlow, hhigh⟩ := bounds_of_log2 (by decide) h
  obtain ⟨m, hm, hquotient, hmultiple⟩ := exists_nearestMultiple_eq n
  have hlog : m.log2 = 63 := (Nat.log2_eq_iff (by omega)).mpr ⟨by omega, by omega⟩
  exact ⟨m, hm, ofNat_congr hlog h hmultiple⟩

end LumpRules.Precision
