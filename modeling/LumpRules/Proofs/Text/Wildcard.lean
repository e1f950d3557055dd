import LumpRules.Proofs.Text.Beginning

/-!
# Texts that match without a wildcard

A star is no letter and is not passed over between letters, so that the lower case of a text is the
same with a star behind it (`lowercase_append_star`).  Hence a text that is equal to an expected one
also begins with what stands before its star: where wildcards are allowed no match is lost
(`matchText_of_exact`), and every text matches itself (`matchText_self`).
-/

namespace LumpRules.Text

variable {actual expected start : String}

/-- A star behind a text leaves its lower case alone. -/
theorem lowercase_append_star (text : List Char) :
  lowercase (text ++ ['*']) = lowercase text ++ ['*']
  := by
  have huncut : cutsSigma text ['*'] = false := by
    have hstar : meetsCased ['*'] = false := by decide +kernel
    rw [cutsSigma, hstar]
    split
    · apply Bool.and_false
    · rfl
  rw [lowercase_append_eq, lowerBefore_eq_lowercase_iff.mpr huncut]
  rfl

theorem beforeStar?_eq_some_iff :
  beforeStar? expected = some start ↔ expected = start ++ "*"
  := by
  constructor
  · intro h
    rw [beforeStar?] at h
    split at h
    · next rest hrest =>
      obtain rfl := Option.some.inj h
      apply String.toList_inj.mp
      rw [String.toList_append, String.toList_ofList, ← List.reverse_reverse expected.toList, hrest,
        List.reverse_cons]
      rfl
    · contradiction
  · rintro rfl
    apply beforeStar?_append_star

theorem matchText_exact_iff :
  matchText actual expected false = true ↔ lowercase actual.toList = lowercase expected.toList
  := sameText_iff

/-- Where wildcards are allowed no match is lost. -/
theorem matchText_of_exact (h : matchText actual expected false = true) :
  matchText actual expected true = true
  := by
  cases hstar : beforeStar? expected with
  | none =>
    rw [matchText, if_pos rfl, hstar]
    apply h
  | some start =>
    obtain rfl := beforeStar?_eq_some_iff.mp hstar
    have hlower : lowercase (start ++ "*").toList = lowercase start.toList ++ ['*'] := by
      rw [String.toList_append]
      apply lowercase_append_star
    rw [matchText_star, matchText_exact_iff.mp h, hlower]
    apply List.prefix_append

theorem matchText_self (text : String) (allowWildcard : Bool) :
  matchText text text allowWildcard = true
  := by
  have hexact : matchText text text false = true := matchText_exact_iff.mpr rfl
  cases allowWildcard with
  | false => apply hexact
  | true => apply matchText_of_exact hexact

end LumpRules.Text
