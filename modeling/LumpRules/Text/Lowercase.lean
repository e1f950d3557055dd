import LumpRules.Text.Lowercase.Letters

/-!
# Lower case of texts

`lowercase` maps a text character by character; only a capital sigma looks at its neighbours.
It becomes the final sigma exactly when a cased letter stands before it and none after it,
passing over the case-ignorable characters on either side.
-/

namespace LumpRules.Text

/-- Whether the first character that is not case-ignorable is a cased letter. -/
def meetsCased (text : List Char) : Bool :=
  match text.dropWhile isCaseIgnorable with
  | [] => false
  | c :: _ => isCased c

/-- The lower case of a character that stands after `before`, nearest character first, and
before `after`. -/
def lowerBetween (before : List Char) (c : Char) (after : List Char) : List Char :=
  if c == 'Σ' then
    [if meetsCased before && !meetsCased after then 'ς' else 'σ']
  else
    lowerChar c

/-- The lower case of the rest of a text, `before` being the characters already passed. -/
def lowerAfter (before : List Char) : List Char → List Char
  | [] => []
  | c :: after => lowerBetween before c after ++ lowerAfter (c :: before) after

/-- The lower case of a text. -/
def lowercase (text : List Char) : List Char :=
  lowerAfter [] text

/-- On ASCII texts the lower case is taken letter by letter. -/
theorem lowerAfter_of_ascii {before text : List Char} (h : ∀ c ∈ text, c.toNat < 128) :
  lowerAfter before text = text.map Char.toLower
  := by
  induction text generalizing before with
  | nil => rfl
  | cons c rest ih =>
    have hc : c.toNat < 128 := h c (by simp)
    have hsigma : (c == 'Σ') = false := by
      rw [beq_eq_false_iff_ne]
      rintro rfl
      exact absurd hc (by decide)
    simp [lowerAfter, lowerBetween, hsigma, lowerChar_of_ascii hc,
      ih (fun d hd => h d (by simp [hd]))]

theorem lowercase_of_ascii {text : List Char} (h : ∀ c ∈ text, c.toNat < 128) :
  lowercase text = text.map Char.toLower
  := lowerAfter_of_ascii h

end LumpRules.Text
