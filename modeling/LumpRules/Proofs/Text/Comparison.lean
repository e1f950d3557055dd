import LumpRules.Proofs.Text.Wildcard

/-!
# One comparison for all texts

Texts are compared letter by letter if they are ASCII, and in full lower case as soon as one of them
is not.  `matchLowercase` is the second comparison alone, and both give the same answer whatever the
texts are (`matchText_eq`).  So texts match each other without wildcards exactly if they have the
same lower case, which is an equivalence across all letters, and of two texts that match each other
one may stand for the other in every comparison (`matchText_congr`): a star ends a text if it ends
its lower case (`getLast?_lowercase_star`).
-/

namespace LumpRules.Text

variable {text : List Char} {actual actual' expected expected' : String}

/-- Whether two texts agree in full lower case, or, where wildcards are allowed and the expected one
ends in a star, the actual one begins in lower case with the lower case of what stands before it. -/
def matchLowercase (actual expected : String) (allowWildcard : Bool) : Bool :=
  if allowWildcard && expected.toList.getLast? == some '*' then
    (lowercase expected.toList.dropLast).isPrefixOf (lowercase actual.toList)
  else
    lowercase actual.toList == lowercase expected.toList

theorem beforeStar?_eq_none_iff :
  beforeStar? expected = none ↔ expected.toList.getLast? ≠ some '*'
  := by
  rw [Ne, List.getLast?_eq_some_iff, Option.eq_none_iff_forall_ne_some]
  constructor
  · rintro h ⟨front, hfront⟩
    apply h (String.ofList front)
    rw [beforeStar?_eq_some_iff, ← String.toList_inj, hfront]
    simp
  · intro h start hstart
    obtain rfl := beforeStar?_eq_some_iff.mp hstart
    apply h
    use start.toList
    simp

/-- Texts are compared in lower case, whether they are ASCII or not. -/
theorem matchText_eq (actual expected : String) (allowWildcard : Bool) :
  matchText actual expected allowWildcard = matchLowercase actual expected allowWildcard
  := by
  have hexact : sameText actual expected =
      (lowercase actual.toList == lowercase expected.toList) := by
    rw [Bool.eq_iff_iff, sameText_iff, beq_iff_eq]
  rw [matchText, matchLowercase]
  cases allowWildcard with
  | false => apply hexact
  | true =>
    cases hstar : beforeStar? expected with
    | none =>
      rw [beforeStar?_eq_none_iff] at hstar
      simp [hstar, hexact]
    | some start =>
      obtain rfl := beforeStar?_eq_some_iff.mp hstar
      have hlast : (start ++ "*").toList = start.toList ++ ['*'] := String.toList_append
      rw [Bool.eq_iff_iff, hlast]
      simp [startsWithText_iff]

/-! ### A star at the end of a text -/

theorem getLast?_lowercase_star :
  (lowercase text).getLast? = some '*' ↔ text.getLast? = some '*'
  := by
  rcases List.eq_nil_or_concat' text with rfl | ⟨front, c, rfl⟩
  · rfl
  rw [List.getLast?_concat, Option.some_inj]
  constructor
  · intro h
    have hlower : lowercase (front ++ [c]) =
        lowerBefore [] front [c] ++ lowerBetween front.reverse c [] := by
      rw [lowercase_append_eq, lowerAfter, lowerAfter, List.append_nil]
    rw [hlower, List.getLast?_append_of_ne_nil _ lowerBetween_ne_nil] at h
    apply eq_of_mem_lowerBetween (List.mem_of_getLast? h) (by decide) (by decide)
  · rintro rfl
    rw [lowercase_append_star, List.getLast?_concat]

/-- The lower case of a text is that of what stands before its star, and the star. -/
theorem lowercase_dropLast_star (h : text.getLast? = some '*') :
  lowercase text = lowercase text.dropLast ++ ['*']
  := by
  obtain ⟨front, rfl⟩ := List.getLast?_eq_some_iff.mp h
  rw [lowercase_append_star, List.dropLast_concat]

/-- Of two texts that match each other one may stand for the other. -/
theorem matchText_congr (hactual : matchText actual actual' false = true)
    (hexpected : matchText expected expected' false = true) (allowWildcard : Bool) :
  matchText actual expected allowWildcard = matchText actual' expected' allowWildcard
  := by
  rw [matchText_exact_iff] at hactual hexpected
  have hstar : expected.toList.getLast? = some '*' ↔ expected'.toList.getLast? = some '*' := by
    rw [← getLast?_lowercase_star, hexpected, getLast?_lowercase_star]
  rw [matchText_eq, matchText_eq, matchLowercase, matchLowercase, hactual, hexpected]
  by_cases hlast : expected.toList.getLast? = some '*'
  · have hlast' := hstar.mp hlast
    have hbefore : lowercase expected.toList.dropLast = lowercase expected'.toList.dropLast := by
      rw [lowercase_dropLast_star hlast, lowercase_dropLast_star hlast'] at hexpected
      apply List.append_cancel_right hexpected
    rw [hlast, hlast', hbefore]
  · have hlast' := mt hstar.mpr hlast
    simp [hlast, hlast']

/-- The comparison is the one in full lower case for all texts, so matching without wildcards is an
equivalence of texts, and every comparison respects it. -/
theorem matchText_lowercase :
  (∀ actual expected allowWildcard,
    matchText actual expected allowWildcard = matchLowercase actual expected allowWildcard) ∧
  Equivalence (fun a b => matchText a b false = true) ∧
  ∀ actual actual' expected expected', matchText actual actual' false = true →
    matchText expected expected' false = true → ∀ allowWildcard,
      matchText actual expected allowWildcard = matchText actual' expected' allowWildcard
  := by
  refine ⟨matchText_eq, ⟨?_, ?_, ?_⟩, ?_⟩
  · intro a
    apply matchText_self
  · intro a b h
    rw [matchText_exact_iff] at h ⊢
    exact h.symm
  · intro a b c hab hbc
    rw [matchText_exact_iff] at hab hbc ⊢
    exact hab.trans hbc
  · intro actual actual' expected expected' hactual hexpected
    apply matchText_congr hactual hexpected

/-- The sign of the kelvin is no ASCII character, but the letter that it is written as is one: texts
of both kinds stand for each other, before a star too. -/
theorem matchText_lowercase_kelvin :
  matchText "\u212aG" "kg" false = true ∧ matchText "K*" "\u212a*" false = true ∧
    matchText "\u212aG" "K*" true = matchText "kg" "\u212a*" true
  := by
  have hactual : matchText "\u212aG" "kg" false = true := by
    decide +kernel
  have hexpected : matchText "K*" "\u212a*" false = true := by
    decide +kernel
  exact ⟨hactual, hexpected, matchText_lowercase.2.2 _ _ _ _ hactual hexpected true⟩

end LumpRules.Text
