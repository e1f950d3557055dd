import LumpRules.Proofs.Decimal.Numeral
import LumpRules.Proofs.Json.Reading
import LumpRules.Proofs.Precision.Integers
import LumpRules.Rule.Compilation

/-!
# Integers in conditions

JSON keeps the integers that fit 64 bits with or without a sign (`Json.read_toString`).  In a
condition those that fit with a sign are compared as integers, so that the condition accepts the
decimal text of that integer only.  The others become numbers of double precision, and so does an
integer whose text is compared with one (`Decimal.real?_toString`).  There the tolerance makes no
difference, but of 64 binary digits the last eleven are lost: the condition accepts every integer
that becomes the same number, and there is always another one (`accepts_toString_iff`).
-/

namespace LumpRules

namespace Decimal

variable {n : Nat} {digits : List Char}

/-! ### Reading digits -/

theorem span_toDigits (n : Nat) :
  (Nat.toDigits 10 n).span Char.isDigit = (Nat.toDigits 10 n, [])
  := by
  have hall : ∀ c ∈ Nat.toDigits 10 n, c.isDigit = true := fun c => isDigit_of_mem_toDigits
  rw [List.span_eq_takeWhile_dropWhile, List.takeWhile_eq_self_iff.mpr hall,
    List.dropWhile_eq_nil_iff.mpr hall]

/-- Ten is more than three binary digits. -/
theorem three_mul_le_log2 {places : Nat} (hpos : 0 < places)
    (h : places < (Nat.toDigits 10 n).length) :
  3 * places ≤ n.log2
  := by
  have hpower : 10 ^ places ≤ n := by
    rw [← Nat.not_lt, ← Nat.length_toDigits_le_iff (by decide) hpos]
    omega
  have hne : n ≠ 0 := Nat.ne_of_gt (Nat.lt_of_lt_of_le (Nat.pow_pos (by decide)) hpower)
  rw [Nat.le_log2 hne, Nat.pow_mul]
  exact Nat.le_trans (Nat.pow_le_pow_left (by decide) places) hpower

/-- A number with too many digits is infinite in double precision. -/
theorem nearest_zero (n : Nat) :
  nearest n 0 = Float.ofNat n
  := by
  by_cases hzero : n = 0
  · rw [hzero]
    rfl
  · have hsmall : ¬ (n == 0 || decide ((0 : Int) + (Nat.toDigits 10 n).length < -400)) = true := by
      simp only [Bool.or_eq_true, beq_iff_eq, decide_eq_true_iff]
      omega
    rw [nearest, if_neg hsmall]
    split
    · next hlarge =>
      have hlog := @three_mul_le_log2 n 400 (by decide) (by omega)
      rw [Precision.ofNat_overflow (by omega)]
    · rfl

theorem unsigned?_toDigits (n : Nat) :
  unsigned? (Nat.toDigits 10 n) = some (Float.ofNat n)
  := by
  have hsome : (Nat.toDigits 10 n).isEmpty = false :=
    List.isEmpty_eq_false_iff.mpr Nat.toDigits_ne_nil
  rw [unsigned?, span_toDigits]
  simp only [hsome, Bool.false_and, Bool.false_eq_true, if_false, exponentPart?, Option.map_some]
  rw [digitsFrom_toDigits]
  exact congrArg some (nearest_zero n)

/-- The digits of an integer are read as what the integer becomes in double precision. -/
theorem real?_toString (n : Int) :
  real? (toString n).toList = some (Float.ofInt n)
  := by
  rw [real?, signed_toString]
  simp only [unsigned?_toDigits, Option.map_some, decide_eq_true_iff]
  cases n with
  | ofNat n => rfl
  | negSucc n =>
    rw [if_pos (Int.negSucc_lt_zero n)]
    rfl

/-! ### Digits in JSON -/

/-- Only zero starts with a zero. -/
theorem head?_toDigits (hpos : 0 < n) :
  (Nat.toDigits 10 n).head? ≠ some '0'
  := by
  have hdigit : ∀ d < 10, 0 < d → some d.digitChar ≠ some '0' := by decide
  induction n using Nat.strong_induction_on with
  | _ n ih =>
    by_cases hsmall : n < 10
    · rw [Nat.toDigits_of_lt_base hsmall, List.head?_cons]
      exact hdigit n hsmall hpos
    · rw [Nat.toDigits_of_base_le (by decide) (by omega),
        List.head?_append_of_ne_nil _ Nat.toDigits_ne_nil]
      exact ih (n / 10) (by omega) (by omega)

end Decimal

namespace Json

open Decimal Document

variable {n : Nat} {digits : List Char}

theorem le_digitsFrom (high : Nat) (digits : List Char) :
  high ≤ digitsFrom high digits
  := by
  induction digits generalizing high with
  | nil => exact le_refl high
  | cons c digits ih =>
    have hstep : high ≤ high * 10 + (c.toNat - '0'.toNat) := by omega
    exact Nat.le_trans hstep (ih _)

/-- All digits are taken if the number fits. -/
theorem takeDigits_eq {high : Nat} (h : digitsFrom high digits ≤ maxSignificand) :
  takeDigits high digits = (digitsFrom high digits, 0)
  := by
  induction digits generalizing high with
  | nil => rfl
  | cons c digits ih =>
    rw [takeDigits, if_pos (Nat.le_trans (le_digitsFrom _ digits) h)]
    exact ih h

theorem readWhole_toDigits (n : Nat) :
  readWhole (Nat.toDigits 10 n) = .ok (Nat.toDigits 10 n, [])
  := by
  have hread : readDigits (Nat.toDigits 10 n) = .ok (Nat.toDigits 10 n, []) := by
    have happend := readDigits_append Nat.toDigits_ne_nil (fun c => @isDigit_of_mem_toDigits c n)
      (show Lacks Char.isDigit [] by simp [Lacks])
    rwa [List.append_nil] at happend
  have hzero : ∀ c rest, Nat.toDigits 10 n ≠ '0' :: c :: rest := by
    intro c rest heq
    rcases Nat.eq_zero_or_pos n with rfl | hpos
    · simp at heq
    · apply head?_toDigits hpos
      rw [heq]
      rfl
  rw [readWhole, bind_eq_ok]
  use (Nat.toDigits 10 n, []), hread
  simp only

theorem readNumber_toDigits (negative : Bool) {number : JsonNumber}
    (h : numberOf? negative (Nat.toDigits 10 n) [] none = some number) :
  readNumber .full negative (Nat.toDigits 10 n) = .ok (number, [])
  := by
  rw [readNumber, bind_eq_ok]
  use (Nat.toDigits 10 n, []), readWhole_toDigits n
  rw [bind_eq_ok]
  use ([], []), rfl
  rw [bind_eq_ok]
  use (none, []), rfl
  simp only [h]

theorem numberOf?_toDigits (h : n ≤ maxSignificand) :
  numberOf? false (Nat.toDigits 10 n) [] none = some (.integer n)
  := by
  have hfits : digitsFrom 0 (Nat.toDigits 10 n) ≤ maxSignificand := by
    rwa [digitsFrom_toDigits]
  have htake := takeDigits_eq hfits
  rw [numberOf?, htake, digitsFrom_toDigits]
  rfl

theorem numberOf?_negative (hpos : 0 < n) (h : minInteger ≤ -n) :
  numberOf? true (Nat.toDigits 10 n) [] none = some (.integer (-n))
  := by
  rw [minInteger] at h
  have hfits : digitsFrom 0 (Nat.toDigits 10 n) ≤ maxSignificand := by
    rw [digitsFrom_toDigits, maxSignificand]
    omega
  have htake := takeDigits_eq hfits
  have hsmall : ¬ (n == 0 || decide ((n : Int) > -minInteger)) = true := by
    rw [minInteger]
    simp only [Bool.or_eq_true, beq_iff_eq, decide_eq_true_iff]
    omega
  rw [numberOf?, htake, digitsFrom_toDigits]
  exact if_neg hsmall

/-- An integer of 64 bits, with or without a sign, is a name of itself. -/
theorem isName_toString {n : Int} (h : minInteger ≤ n ∧ n ≤ maxSignificand) :
  IsName (toString n).toList (.number (.integer n))
  := by
  rw [toList_toString]
  split
  · next hpositive =>
    have hnumber := @numberOf?_toDigits n.natAbs (by omega)
    rw [Int.natAbs_of_nonneg hpositive] at hnumber
    obtain ⟨word, hword, hne, htext⟩ := readNumber_sound (readNumber_toDigits false hnumber)
    obtain ⟨c, rest, rfl⟩ := List.exists_cons_of_ne_nil hne
    rw [List.append_nil] at htext
    have hc : c.isDigit = true := by
      apply @isDigit_of_mem_toDigits c n.natAbs
      rw [htext]
      apply List.mem_cons_self
    rw [htext]
    exact isName_number hword hc
  · next hnegative =>
    have hvalue : -(n.natAbs : Int) = n := by omega
    have hnumber := @numberOf?_negative n.natAbs (by omega) (by omega)
    rw [hvalue] at hnumber
    obtain ⟨word, hword, -, htext⟩ := readNumber_sound (readNumber_toDigits true hnumber)
    rw [List.append_nil] at htext
    rw [htext]
    exact isName_negative hword

/-- It is read as it is written. -/
theorem read_toString {n : Int} (h : minInteger ≤ n ∧ n ≤ maxSignificand) :
  read (toString n) = .ok (.number (.integer n))
  := by
  have hname := (isName_toString h).2 ((toString n).toList.length + 1) maxNesting []
    (by simp [Stops, Lacks])
  rw [List.append_nil] at hname
  rw [read, bind_eq_ok]
  use (.number (.integer n), []), hname
  rfl

end Json

/-! ### Conditions -/

variable {n : Int}

namespace RuleValue

theorem accepts_integer_iff (h : Decimal.minInteger ≤ n ∧ n ≤ Decimal.maxInteger) (m : Int)
    (allowWildcard : Bool) :
  (integer n).accepts (toString m) allowWildcard = true ↔ m = n
  := by
  rw [accepts, Decimal.trim_toString, Decimal.integer?_toString_eq, beq_iff_eq]
  split
  · exact Option.some_inj
  · next hrange =>
    constructor
    · intro heq
      contradiction
    · rintro rfl
      exact (hrange h).elim

variable (hlow : Decimal.maxInteger < n) (hhigh : n ≤ Json.maxSignificand)

include hlow hhigh

/-- These are the integers with 64 binary digits. -/
theorem log2_eq_of_maxInteger_lt :
  n.natAbs.log2 = 63
  := by
  rw [Decimal.maxInteger] at hlow
  rw [Json.maxSignificand] at hhigh
  rw [Nat.log2_eq_iff] <;> omega

theorem accepts_number_iff (m : Int) (allowWildcard : Bool) :
  (number (Float.ofInt n)).accepts (toString m) allowWildcard = true ↔
    Float.ofInt m = Float.ofInt n
  := by
  have hlog := log2_eq_of_maxInteger_lt hlow hhigh
  rw [accepts, Decimal.trim_toString, Decimal.real?_toString, Option.any_some]
  exact Precision.isNear_ofInt_iff (by omega) (by omega) m

/-- Some other integer becomes the same number. -/
theorem exists_accepts_number :
  ∃ m : Int, m ≠ n ∧ ∀ allowWildcard,
    (number (Float.ofInt n)).accepts (toString m) allowWildcard = true
  := by
  obtain ⟨m, hm, hsame⟩ := Precision.exists_ofNat_eq (log2_eq_of_maxInteger_lt hlow hhigh)
  have hpositive : (n.natAbs : Int) = n := by
    rw [Decimal.maxInteger] at hlow
    omega
  refine ⟨m, by omega, ?_⟩
  intro allowWildcard
  rw [accepts_number_iff hlow hhigh, ← hpositive]
  exact hsame

end RuleValue

/-- An integer of 64 bits, with or without a sign, is kept as it is in JSON.  In a condition it
accepts, among the decimal texts of all integers, its own only if it fits 64 bits with a sign.
Otherwise it accepts those of all integers that become the same number of double precision, and it
is not the only one of these. -/
theorem accepts_toString_iff [PatternReader] (h : Decimal.minInteger ≤ n ∧ n ≤ Json.maxSignificand)
    (key : String) :
  Json.read (toString n) = .ok (.number (.integer n)) ∧
  ∃ value, (Compilation.expectedValue key (.number (.integer n))).run.value = .ok value ∧
    (∀ (m : Int) allowWildcard, value.accepts (toString m) allowWildcard = true ↔
      if n ≤ Decimal.maxInteger then m = n else Float.ofInt m = Float.ofInt n) ∧
    ((∀ (m : Int) allowWildcard, value.accepts (toString m) allowWildcard = true ↔ m = n) ↔
      n ≤ Decimal.maxInteger)
  := by
  use Json.read_toString h
  by_cases hfits : n ≤ Decimal.maxInteger
  · have haccepts := RuleValue.accepts_integer_iff ⟨h.1, hfits⟩
    refine ⟨.integer n, ?_, ?_, ?_⟩
    · rw [Compilation.expectedValue, if_pos ⟨h.1, hfits⟩]
      rfl
    · simpa only [if_pos hfits] using haccepts
    · exact iff_of_true haccepts hfits
  · have hlarge := Int.not_le.mp hfits
    refine ⟨.number (Float.ofInt n), ?_, ?_, ?_⟩
    · rw [Compilation.expectedValue, if_neg fun hrange => hfits hrange.2]
      rfl
    · simpa only [if_neg hfits] using RuleValue.accepts_number_iff hlarge h.2
    · refine iff_of_false ?_ hfits
      intro hexact
      obtain ⟨m, hne, haccepts⟩ := RuleValue.exists_accepts_number hlarge h.2
      exact hne ((hexact m false).mp (haccepts false))

open scoped PatternReader in
/-- The greatest integer that fits with a sign. -/
theorem accepts_toString_iff_greatest :
  ∃ value, (Compilation.expectedValue "id" (.number (.integer 9223372036854775807))).run.value =
      .ok value ∧
    ∀ (m : Int) allowWildcard,
      value.accepts (toString m) allowWildcard = true ↔ m = 9223372036854775807
  := by
  obtain ⟨-, value, hvalue, -, hexact⟩ :=
    @accepts_toString_iff 9223372036854775807 _ ⟨by decide, by decide⟩ "id"
  exact ⟨value, hvalue, hexact.mpr (by decide)⟩

open scoped PatternReader in
/-- The next integer accepts the text of the one after it. -/
theorem accepts_toString_next :
  ∃ value, (Compilation.expectedValue "id" (.number (.integer 9223372036854775808))).run.value =
      .ok value ∧
    value.accepts (toString (9223372036854775809 : Int)) false = true ∧
    ¬ ∀ (m : Int) allowWildcard,
      value.accepts (toString m) allowWildcard = true ↔ m = 9223372036854775808
  := by
  have haccepts : (RuleValue.number (Float.ofInt 9223372036854775808)).accepts
      (toString (9223372036854775809 : Int)) false = true := by
    decide +kernel
  refine ⟨.number (Float.ofInt 9223372036854775808), rfl, haccepts, ?_⟩
  intro hexact
  exact absurd ((hexact _ _).mp haccepts) (by decide)

end LumpRules
