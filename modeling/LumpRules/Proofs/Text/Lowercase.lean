import LumpRules.Proofs.Text.Letters
import LumpRules.Text.Ascii
import LumpRules.Text.Lowercase

/-!
# Lower case of texts

The lower case of a text is its own lower case (`lowercase_lowercase`) and does not depend on the
case of ASCII letters (`lowercase_map_toLower`).  Two texts that are put together are folded each
by itself (`lowercase_append`), unless a capital sigma stands where they meet: there its lower
case depends on both texts.  `firstLetter?` finds the character that counts at the end of a text.
`lowerName` is the lower case of a name.
-/

namespace LumpRules.Text

variable {c d : Char} {text more before after past : List Char}

/-! ### Characters of a text in lower case -/

theorem lowerChar_of_mem_lowerAfter (h : d ∈ lowerAfter before text) :
  lowerChar d = [d]
  := by
  induction text generalizing before with
  | nil => contradiction
  | cons c text ih =>
    rw [lowerAfter, List.mem_append, lowerBetween] at h
    rcases h with hd | hd
    · split at hd
      · rw [List.mem_singleton] at hd
        rw [hd]
        split <;> rfl
      · apply lowerChar_of_mem hd
    · apply ih hd

theorem sigma_notMem_lowerAfter :
  'Σ' ∉ lowerAfter before text
  := by
  intro hsigma
  have hlower := lowerChar_of_mem_lowerAfter hsigma
  revert hlower
  decide

theorem lowerAfter_of_lowerChar (h : ∀ d ∈ text, lowerChar d = [d]) :
  lowerAfter before text = text
  := by
  induction text generalizing before with
  | nil => rfl
  | cons c text ih =>
    have hc : lowerChar c = [c] := h c (by simp)
    have hsigma : (c == 'Σ') = false := by
      rw [beq_eq_false_iff_ne]
      rintro rfl
      revert hc
      decide
    rw [lowerAfter, lowerBetween, hsigma, if_neg Bool.false_ne_true, hc,
      ih fun d hd => h d (by simp [hd])]
    rfl

/-- The lower case of a text is its own lower case. -/
theorem lowercase_lowercase (text : List Char) :
  lowercase (lowercase text) = lowercase text
  := by
  apply lowerAfter_of_lowerChar
  intro d hd
  apply lowerChar_of_mem_lowerAfter hd

theorem lowerBetween_ne_nil :
  lowerBetween before c after ≠ []
  := by
  rw [lowerBetween]
  split
  · apply List.cons_ne_nil
  · apply lowerChar_ne_nil

/-- An ASCII character that is no letter is the lower case of itself only. -/
theorem eq_of_mem_lowerBetween (h : d ∈ lowerBetween before c after) (hascii : d.toNat < 128)
    (hletter : d.isAlpha = false) :
  c = d
  := by
  rw [lowerBetween] at h
  split at h
  · rw [List.mem_singleton] at h
    subst h
    split at hascii <;> contradiction
  · obtain hlower | rfl | rfl := toLower_of_mem h hascii
    · obtain heq | ⟨-, halpha⟩ := toLower_eq_or_isAlpha c
      · rw [← heq, hlower]
      · rw [hlower, hletter] at halpha
        contradiction
    · contradiction
    · contradiction

/-! ### The letter next to a place -/

/-- The first character that is not case-ignorable. -/
def firstLetter? (text : List Char) : Option Char :=
  text.find? (!isCaseIgnorable ·)

theorem meetsCased_eq (text : List Char) :
  meetsCased text = (firstLetter? text).any isCased
  := by
  induction text with
  | nil => rfl
  | cons c text ih =>
    rw [meetsCased, firstLetter?, List.dropWhile_cons, List.find?_cons]
    cases isCaseIgnorable c with
    | true => apply ih
    | false => rfl

theorem mem_of_firstLetter? (h : firstLetter? text = some c) :
  c ∈ text
  := List.mem_of_find?_eq_some h

theorem firstLetter?_append :
  firstLetter? (text ++ more) = (firstLetter? text).or (firstLetter? more)
  := List.find?_append

theorem firstLetter?_reverse_eq_none :
  firstLetter? text.reverse = none ↔ firstLetter? text = none
  := by
  simp [firstLetter?]

/-- What follows the first letter does not matter. -/
theorem meetsCased_append (h : firstLetter? text ≠ none) :
  meetsCased (text ++ more) = meetsCased text
  := by
  obtain ⟨c, hc⟩ := Option.ne_none_iff_exists'.mp h
  rw [meetsCased_eq, meetsCased_eq, firstLetter?_append, hc, Option.some_or]

theorem lowerBetween_append_after (h : firstLetter? after = none → c ≠ 'Σ') :
  lowerBetween before c (after ++ more) = lowerBetween before c after
  := by
  by_cases hsigma : c = 'Σ'
  · have hafter : firstLetter? after ≠ none := fun hnone => h hnone hsigma
    rw [lowerBetween, lowerBetween, meetsCased_append hafter]
  · rw [lowerBetween, lowerBetween, if_neg (by simpa using hsigma),
      if_neg (by simpa using hsigma)]

theorem lowerBetween_append_before (h : firstLetter? before = none → c ≠ 'Σ') :
  lowerBetween (before ++ past) c after = lowerBetween before c after
  := by
  by_cases hsigma : c = 'Σ'
  · have hbefore : firstLetter? before ≠ none := fun hnone => h hnone hsigma
    rw [lowerBetween, lowerBetween, meetsCased_append hbefore]
  · rw [lowerBetween, lowerBetween, if_neg (by simpa using hsigma),
      if_neg (by simpa using hsigma)]

theorem firstLetter?_cons_sigma :
  firstLetter? ('Σ' :: text) = some 'Σ'
  := by
  rw [firstLetter?, List.find?_cons_of_pos]
  rw [isCaseIgnorable_eq_false (.inr rfl), Bool.not_false]

/-! ### Texts put together -/

/-- What follows a text does not matter for its lower case, if its last letter is no capital
sigma. -/
theorem lowerAfter_append (h : firstLetter? text.reverse ≠ some 'Σ') :
  lowerAfter before (text ++ more) =
    lowerAfter before text ++ lowerAfter (text.reverse ++ before) more
  := by
  induction text generalizing before with
  | nil => rfl
  | cons c text ih =>
    rw [List.reverse_cons, firstLetter?_append] at h
    have htext : firstLetter? text.reverse ≠ some 'Σ' := by
      intro hsigma
      rw [hsigma, Option.some_or] at h
      contradiction
    have hc : firstLetter? text = none → c ≠ 'Σ' := by
      rintro hnone rfl
      rw [firstLetter?_reverse_eq_none.mpr hnone, Option.none_or, firstLetter?_cons_sigma] at h
      contradiction
    rw [List.cons_append, lowerAfter, lowerAfter, lowerBetween_append_after hc, ih htext,
      List.append_assoc, List.reverse_cons, List.append_assoc, List.singleton_append]

/-- What stands before a text does not matter for its lower case, if its first letter is no
capital sigma or some letter of it has been passed already. -/
theorem lowerAfter_append_before
    (h : firstLetter? before = none → firstLetter? text ≠ some 'Σ') :
  lowerAfter (before ++ past) text = lowerAfter before text
  := by
  induction text generalizing before with
  | nil => rfl
  | cons c text ih =>
    have hc : firstLetter? before = none → c ≠ 'Σ' := by
      rintro hnone rfl
      apply h hnone firstLetter?_cons_sigma
    have htext : firstLetter? (c :: before) = none → firstLetter? text ≠ some 'Σ' := by
      intro hnone
      have hignorable : isCaseIgnorable c = true := by
        simpa using List.find?_eq_none.mp hnone c (by simp)
      rw [firstLetter?, List.find?_cons_of_neg (by simp [hignorable])] at hnone
      have hrest := h hnone
      rwa [firstLetter?, List.find?_cons_of_neg (by simp [hignorable])] at hrest
    rw [lowerAfter, lowerAfter, lowerBetween_append_before hc, ← List.cons_append, ih htext]

/-- Texts are folded each by itself where no capital sigma stands between them. -/
theorem lowercase_append (h : firstLetter? text.reverse ≠ some 'Σ')
    (hmore : firstLetter? more ≠ some 'Σ') :
  lowercase (text ++ more) = lowercase text ++ lowercase more
  := by
  rw [lowercase, lowerAfter_append h, ← List.nil_append (text.reverse ++ [])]
  rw [lowerAfter_append_before fun _ => hmore]
  rfl

/-! ### The case of ASCII letters -/

theorem isCased_toLower (c : Char) :
  isCased c.toLower = isCased c
  := by
  obtain heq | ⟨halpha, halpha'⟩ := toLower_eq_or_isAlpha c
  · rw [heq]
  · rw [isCased_of_isAlpha halpha, isCased_of_isAlpha halpha']

theorem isCaseIgnorable_toLower (c : Char) :
  isCaseIgnorable c.toLower = isCaseIgnorable c
  := by
  obtain heq | ⟨halpha, halpha'⟩ := toLower_eq_or_isAlpha c
  · rw [heq]
  · rw [isCaseIgnorable_eq_false (.inl halpha), isCaseIgnorable_eq_false (.inl halpha')]

theorem meetsCased_map_toLower (text : List Char) :
  meetsCased (text.map Char.toLower) = meetsCased text
  := by
  rw [meetsCased_eq, meetsCased_eq, firstLetter?, List.find?_map, Option.any_map]
  simp only [Function.comp_def, isCaseIgnorable_toLower, isCased_toLower]
  rfl

theorem toLower_beq_sigma (c : Char) :
  (c.toLower == 'Σ') = (c == 'Σ')
  := by
  by_cases hascii : c.toNat < 128
  · apply of_isAscii _ hascii
    decide
  · rw [toLower_of_not_isAscii (Nat.not_lt.mp hascii)]

theorem lowerAfter_map_toLower :
  lowerAfter (before.map Char.toLower) (text.map Char.toLower) = lowerAfter before text
  := by
  induction text generalizing before with
  | nil => rfl
  | cons c text ih =>
    rw [List.map_cons, lowerAfter, lowerAfter, ← List.map_cons, ih, lowerBetween, lowerBetween,
      toLower_beq_sigma, meetsCased_map_toLower, meetsCased_map_toLower, lowerChar_toLower]

/-- The lower case does not depend on the case of ASCII letters. -/
theorem lowercase_map_toLower (text : List Char) :
  lowercase (text.map Char.toLower) = lowercase text
  := by
  have h : lowerAfter ([].map Char.toLower) (text.map Char.toLower) = lowerAfter [] text :=
    lowerAfter_map_toLower
  apply h

/-- A lower case in ASCII differs from the text in the case of ASCII letters only, if there is no
`i` and no `k` in it. -/
theorem lowerAfter_eq_map
    (h : ∀ d ∈ lowerAfter before text, d.toNat < 128 ∧ d ≠ 'i' ∧ d ≠ 'k') :
  lowerAfter before text = text.map Char.toLower
  := by
  induction text generalizing before with
  | nil => rfl
  | cons c text ih =>
    rw [lowerAfter, List.forall_mem_append] at h
    obtain ⟨hc, htext⟩ := h
    have hletter : lowerBetween before c text = [c.toLower] := by
      rw [lowerBetween] at hc ⊢
      split at hc
      · split at hc <;> simp at hc
      · next hsigma =>
        rw [if_neg hsigma]
        apply lowerChar_eq_toLower hc
    rw [lowerAfter, hletter, ih htext]
    rfl

/-- There are no ASCII capital letters in the lower case. -/
theorem map_toLower_lowercase (text : List Char) :
  (lowercase text).map Char.toLower = lowercase text
  := by
  calc
    (lowercase text).map Char.toLower = (lowercase text).map id := by
      apply List.map_congr_left
      intro d hd
      apply toLower_of_lowerChar (lowerChar_of_mem_lowerAfter hd)
    _ = lowercase text := List.map_id _

/-! ### Names -/

/-- A name in lower case. -/
def lowerName (name : String) : String :=
  String.ofList (lowercase name.toList)

@[simp]
theorem lowerName_lowerName (name : String) :
  lowerName (lowerName name) = lowerName name
  := by
  rw [lowerName, lowerName, String.toList_ofList, lowercase_lowercase]

@[simp]
theorem lowerName_lowerAscii (name : String) :
  lowerName (lowerAscii name) = lowerName name
  := by
  rw [lowerName, lowerAscii, String.toList_ofList, lowercase_map_toLower, lowerName]

@[simp]
theorem lowerAscii_lowerName (name : String) :
  lowerAscii (lowerName name) = lowerName name
  := by
  rw [lowerAscii, lowerName, String.toList_ofList, map_toLower_lowercase]

/-- Names that differ in the case of ASCII letters only have the same lower case. -/
theorem lowerName_congr {a b : String} (h : lowerAscii a = lowerAscii b) :
  lowerName a = lowerName b
  := by
  rw [← lowerName_lowerAscii a, h, lowerName_lowerAscii]

end LumpRules.Text
