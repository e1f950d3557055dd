import LumpRules.Decimal.Numeral
import LumpRules.Text.Blank
import Mathlib.Tactic.Common

/-!
# Integers that are written and read again

An integer of 64 bits is read from its decimal digits (`integer?_toString`), the least one included:
its magnitude is out of range, but only the value with its sign is compared with the bounds.  There
is no space to be cut off around the digits (`trim_toString`).
-/

namespace LumpRules

open Text

/-- There is nothing to be cut off from a text without white space. -/
theorem Text.trim_eq_self {text : List Char} (h : ∀ c ∈ text, isBlank c = false) :
  trim text = text
  := by
  have hdrop {text : List Char} (h : ∀ c ∈ text, isBlank c = false) :
      text.dropWhile isBlank = text := by
    cases text with
    | nil => rfl
    | cons c rest =>
      apply List.dropWhile_cons_of_neg
      rw [h c List.mem_cons_self]
      apply Bool.false_ne_true
  rw [trim, hdrop h, hdrop, List.reverse_reverse]
  intro c hc
  apply h c (List.mem_reverse.mp hc)

namespace Decimal

theorem digitsFrom_toDigits (n : Nat) :
  digitsFrom 0 (Nat.toDigits 10 n) = n
  := by
  have hstep : (fun n c => n * 10 + (c.toNat - '0'.toNat)) =
      fun (n : Nat) (c : Char) => 10 * n + (c.toNat - '0'.toNat) := by
    funext n c
    rw [Nat.mul_comm]
  rw [digitsFrom, hstep, ← Nat.ofDigitChars_eq_foldl, Nat.ofDigitChars_ten_toDigits]

theorem isDigit_of_mem_toDigits {c : Char} {n : Nat} (h : c ∈ Nat.toDigits 10 n) :
  c.isDigit = true
  := Nat.isDigit_of_mem_toDigits (by decide) (by decide) h

theorem isBlank_of_isDigit {c : Char} (h : c.isDigit = true) :
  isBlank c = false
  := by
  have hbounds : 48 ≤ c.toNat ∧ c.toNat ≤ 57 := Char.isDigit_iff_toNat.mp h
  simp only [isBlank, blankRanges, List.any_cons, List.any_nil, Bool.or_eq_false_iff,
    Bool.and_eq_false_iff, decide_eq_false_iff_not, and_true]
  omega

/-- Digits have no sign in front. -/
theorem signed_of_isDigit {text : List Char} (h : ∀ c ∈ text, c.isDigit = true) :
  signed text = (false, text)
  := by
  rw [signed.eq_def]
  split
  · exact absurd (h '-' List.mem_cons_self) (by decide)
  · exact absurd (h '+' List.mem_cons_self) (by decide)
  · rfl

/-- An integer is written as the digits of its magnitude, behind a minus if it is negative. -/
theorem toList_toString (n : Int) :
  (toString n).toList =
    if 0 ≤ n then Nat.toDigits 10 n.natAbs else '-' :: Nat.toDigits 10 n.natAbs
  := by
  rw [Int.toString_eq_repr, Int.repr_eq_if]
  split
  · next hpositive =>
    have hmagnitude : n.toNat = n.natAbs := by omega
    rw [Nat.toList_repr, hmagnitude]
  · next hnegative =>
    have hmagnitude : (-n).toNat = n.natAbs := by omega
    rw [String.toList_append, Nat.toList_repr, hmagnitude]
    rfl

theorem signed_toString (n : Int) :
  signed (toString n).toList = (decide (n < 0), Nat.toDigits 10 n.natAbs)
  := by
  rw [toList_toString]
  split
  · next hpositive =>
    rw [signed_of_isDigit fun c => isDigit_of_mem_toDigits, decide_eq_false (by omega)]
  · next hnegative =>
    rw [decide_eq_true (by omega)]
    rfl

/-- Integers that need more than 64 bits are not read. -/
theorem integer?_toString_eq (n : Int) :
  integer? (toString n).toList = if minInteger ≤ n ∧ n ≤ maxInteger then some n else none
  := by
  have hdigits : (Nat.toDigits 10 n.natAbs).all Char.isDigit = true := by
    rw [List.all_eq_true]
    intro c hc
    apply isDigit_of_mem_toDigits hc
  have hsome : (Nat.toDigits 10 n.natAbs).isEmpty = false :=
    List.isEmpty_eq_false_iff.mpr Nat.toDigits_ne_nil
  have hvalue : (if decide (n < 0) = true then -(n.natAbs : Int) else n.natAbs) = n := by
    simp only [decide_eq_true_iff]
    omega
  rw [integer?, signed_toString]
  simp only [hsome, hdigits, digitsFrom_toDigits, hvalue]
  simp

theorem integer?_toString {n : Int} (h : minInteger ≤ n ∧ n ≤ maxInteger) :
  integer? (toString n).toList = some n
  := by
  rw [integer?_toString_eq, if_pos h]

theorem trim_toString (n : Int) :
  trim (toString n).toList = (toString n).toList
  := by
  apply trim_eq_self
  intro c hc
  rw [toList_toString] at hc
  split at hc
  · apply isBlank_of_isDigit (isDigit_of_mem_toDigits hc)
  · rcases List.mem_cons.mp hc with rfl | hc
    · decide
    · apply isBlank_of_isDigit (isDigit_of_mem_toDigits hc)

end Decimal

end LumpRules
