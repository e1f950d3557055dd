import LumpRules.Text.Ascii
import LumpRules.Text.Lowercase.Letters
import Mathlib.Tactic.Common

/-!
# Letters in lower case

The lower case of a character consists of characters that are their own lower case
(`lowerChar_of_mem`).  For the letters in the table this means that no small letter of a span lies
in any span; `CapitalSpan.avoids` decides it for two spans by their ends.  No character but the
ASCII letters themselves has an ASCII letter in its lower case, save for `i` and `k`
(`toLower_of_mem`).
-/

namespace LumpRules.Text

/-! ### Code points -/

theorem toNat_ofNat_of_isValidChar {n : Nat} (h : n.isValidChar) :
  (Char.ofNat n).toNat = n
  := by
  rw [Char.ofNat, dif_pos h]
  apply UInt32.toNat_ofNatLT

/-- What holds of the first 128 code points holds of all ASCII characters. -/
theorem of_isAscii {P : Char → Prop} (h : ∀ n : Fin 128, P (Char.ofNat n)) {c : Char}
    (hc : c.toNat < 128) :
  P c
  := by
  have hP := h ⟨c.toNat, hc⟩
  rwa [Char.ofNat_toNat] at hP

/-! ### Spans of letters -/

namespace CapitalSpan

/-- The code point of the first small letter of a span. -/
def lowest (span : CapitalSpan) : Nat := (span.first + span.distance).toNat

/-- The code point of the last small letter of a span. -/
def highest (span : CapitalSpan) : Nat := (span.last + span.distance).toNat

/-- Whether no small letter of a span is a capital letter of another: it lies before or behind the
other, or between its letters. -/
def avoids (span other : CapitalSpan) : Bool :=
  Nat.blt span.highest other.first || Nat.blt other.last span.lowest ||
    ((Nat.beq span.step 2 || Nat.beq span.first span.last) && Nat.beq other.step 2 &&
      Nat.beq ((span.lowest + other.first) % 2) 1)

/-- The small letters of a span are characters, and none of them is ASCII or the capital I with a
dot; the Kelvin sign alone becomes a `k`. -/
def IsRegular (span : CapitalSpan) : Prop :=
  0 ≤ span.first + span.distance ∧
    (span.highest < 0xd800 ∨ 0xdfff < span.lowest ∧ span.highest < 0x110000) ∧
    (span.highest < 0x130 ∨ 0x130 < span.lowest) ∧
    (128 ≤ span.lowest ∨ span.lowest = 0x6b ∧ span.highest = 0x6b)

instance (span : CapitalSpan) : Decidable span.IsRegular := by
  unfold IsRegular
  infer_instance

variable {span other : CapitalSpan} {c d : Char}

theorem avoids_of_mem (hspan : span ∈ capitalSpans) (hother : other ∈ capitalSpans) :
  span.avoids other = true
  := by
  have hall : (capitalSpans.all fun span => capitalSpans.all span.avoids) = true := by
    decide +kernel
  rw [List.all_eq_true] at hall
  apply List.all_eq_true.mp (hall span hspan) other hother

theorem isRegular_of_mem (hspan : span ∈ capitalSpans) :
  span.IsRegular
  := by
  have hall : ∀ span ∈ capitalSpans, span.IsRegular := by
    decide +kernel
  apply hall span hspan

theorem lower?_eq_some_iff :
  span.lower? c = some d ↔
    (span.first ≤ c.toNat ∧ c.toNat ≤ span.last ∧ (c.toNat - span.first) % span.step = 0) ∧
      Char.ofNat (c.toNat + span.distance).toNat = d
  := by
  simp [lower?, and_assoc]

theorem lower?_eq_none_iff :
  span.lower? c = none ↔
    ¬ (span.first ≤ c.toNat ∧ c.toNat ≤ span.last ∧ (c.toNat - span.first) % span.step = 0)
  := by
  simp [lower?]

/-- A small letter has the code point that its span gives to it. -/
theorem toNat_of_lower? (hspan : span ∈ capitalSpans) (h : span.lower? c = some d) :
  d.toNat = (c.toNat + span.distance).toNat
  := by
  obtain ⟨hmem, rfl⟩ := lower?_eq_some_iff.mp h
  obtain ⟨-, hvalid, -⟩ := isRegular_of_mem hspan
  apply toNat_ofNat_of_isValidChar
  simp only [lowest, highest] at hvalid
  simp only [Nat.isValidChar]
  omega

/-- A small letter stands above ASCII and is not the capital I with a dot, or it is a `k`. -/
theorem above_or_eq_of_lower? (hspan : span ∈ capitalSpans) (h : span.lower? c = some d) :
  128 ≤ d.toNat ∧ d.toNat ≠ 0x130 ∨ d = 'k'
  := by
  have hd := toNat_of_lower? hspan h
  obtain ⟨⟨hfirst, hlast, -⟩, -⟩ := lower?_eq_some_iff.mp h
  obtain ⟨-, -, hdot, hascii⟩ := isRegular_of_mem hspan
  simp only [lowest, highest] at hdot hascii
  rcases hascii with hascii | hkelvin
  · left
    omega
  · right
    apply Char.toNat_inj.mp
    rw [hd]
    change _ = 0x6b
    omega

/-- A small letter is no capital letter. -/
theorem lower?_of_lower? (hspan : span ∈ capitalSpans) (h : span.lower? c = some d)
    (hother : other ∈ capitalSpans) :
  other.lower? d = none
  := by
  have hd := toNat_of_lower? hspan h
  obtain ⟨hnonneg, -⟩ := isRegular_of_mem hspan
  obtain ⟨⟨hfirst, hlast, hstep⟩, -⟩ := lower?_eq_some_iff.mp h
  have havoids := avoids_of_mem hspan hother
  rw [lower?_eq_none_iff]
  simp only [avoids, lowest, highest, Bool.or_eq_true, Bool.and_eq_true, Nat.blt_eq,
    Nat.beq_eq] at havoids
  rcases havoids with (hbefore | hbehind) | ⟨⟨hsparse, hother⟩, hodd⟩
  · omega
  · omega
  · rw [hother]
    have heven : (c.toNat - span.first) % 2 = 0 := by
      rcases hsparse with htwo | hsingle
      · rw [← htwo, hstep]
      · omega
    omega

end CapitalSpan

/-! ### Single characters -/

variable {c d : Char}

theorem toLower_of_not_isAscii (h : 128 ≤ c.toNat) :
  c.toLower = c
  := by
  apply dif_neg
  rintro ⟨-, hlast⟩
  have hlast : c.toNat ≤ 90 := hlast
  omega

/-- A name in small letters stays as it is. -/
theorem lowerAscii_lowerAscii (name : String) :
  lowerAscii (lowerAscii name) = lowerAscii name
  := by
  have hlower : ∀ c : Char, c.toLower.toLower = c.toLower := by
    intro c
    by_cases hascii : c.toNat < 128
    · apply of_isAscii _ hascii
      decide
    · have hc := toLower_of_not_isAscii (Nat.not_lt.mp hascii)
      rw [hc, hc]
  simp only [lowerAscii, String.toList_ofList, List.map_map, Function.comp_def, hlower]

/-- Only ASCII letters differ from their small letters. -/
theorem toLower_eq_or_isAlpha (c : Char) :
  c.toLower = c ∨ c.isAlpha = true ∧ c.toLower.isAlpha = true
  := by
  by_cases hascii : c.toNat < 128
  · apply of_isAscii _ hascii
    decide
  · left
    apply toLower_of_not_isAscii (Nat.not_lt.mp hascii)

/-- ASCII letters have a case. -/
theorem isCased_of_isAlpha (h : c.isAlpha = true) :
  isCased c = true
  := by
  rw [isAlpha_iff] at h
  rw [isCased, List.any_eq_true]
  rcases h with hcapital | hsmall
  · use (0x41, 0x5a)
    simpa [casedRanges] using hcapital
  · use (0x61, 0x7a)
    simpa [casedRanges] using hsmall

/-- ASCII letters and the capital sigma are not passed over. -/
theorem isCaseIgnorable_eq_false (h : c.isAlpha = true ∨ c = 'Σ') :
  isCaseIgnorable c = false
  := by
  have hall : ∀ range ∈ caseIgnorableRanges,
      (range.2 < 65 ∨ 90 < range.1 ∧ range.2 < 97 ∨ 122 < range.1) ∧
        (range.2 < 0x3a3 ∨ 0x3a3 < range.1) := by
    decide +kernel
  rw [isAlpha_iff, ← Char.toNat_inj] at h
  change _ ∨ c.toNat = 0x3a3 at h
  rw [isCaseIgnorable, List.any_eq_false]
  rintro ⟨first, last⟩ hrange
  have hrange := hall _ hrange
  simp only [Bool.and_eq_true, decide_eq_true_eq]
  omega

theorem lowerChar_toLower (c : Char) :
  lowerChar c.toLower = lowerChar c
  := by
  by_cases hascii : c.toNat < 128
  · apply of_isAscii _ hascii
    decide
  · rw [toLower_of_not_isAscii (Nat.not_lt.mp hascii)]

/-- No ASCII capital letter is its own lower case. -/
theorem toLower_of_lowerChar (h : lowerChar c = [c]) :
  c.toLower = c
  := by
  by_cases hascii : c.toNat < 128
  · rw [lowerChar_of_ascii hascii] at h
    apply List.singleton_inj.mp h
  · rw [toLower_of_not_isAscii (Nat.not_lt.mp hascii)]

theorem lowerChar_ne_nil :
  lowerChar c ≠ []
  := by
  rw [lowerChar]
  split
  · apply List.cons_ne_nil
  · split <;> apply List.cons_ne_nil

/-- The lower case of an ASCII character, of the capital I with a dot, of a capital letter in the
table and of any other character. -/
theorem lowerChar_cases (c : Char) :
  c.toNat < 128 ∧ lowerChar c = [c.toLower] ∨ c = '\u0130' ∨
    (∃ span ∈ capitalSpans, ∃ d, span.lower? c = some d ∧ lowerChar c = [d]) ∨
    128 ≤ c.toNat ∧ lowerChar c = [c]
  := by
  by_cases hascii : c.toNat < 128
  · left
    exact ⟨hascii, lowerChar_of_ascii hascii⟩
  right
  by_cases hdot : c.toNat = 0x130
  · left
    apply Char.toNat_inj.mp hdot
  right
  have hlower : lowerChar c = [(capitalSpans.findSome? (CapitalSpan.lower? · c)).getD c] := by
    rw [lowerChar, if_neg hascii, if_neg]
    simpa using hdot
  rw [hlower]
  cases hfind : capitalSpans.findSome? (CapitalSpan.lower? · c) with
  | none =>
    right
    exact ⟨Nat.not_lt.mp hascii, rfl⟩
  | some d =>
    left
    obtain ⟨span, hspan, hd⟩ := List.exists_of_findSome?_eq_some hfind
    exact ⟨span, hspan, d, hd, rfl⟩

/-- A small letter of the table is its own lower case. -/
theorem lowerChar_of_lower? {span : CapitalSpan} (hspan : span ∈ capitalSpans)
    (h : span.lower? c = some d) :
  lowerChar d = [d]
  := by
  obtain ⟨habove, hne⟩ | rfl := CapitalSpan.above_or_eq_of_lower? hspan h
  · obtain ⟨hascii, -⟩ | rfl | ⟨other, hother, e, he, -⟩ | ⟨-, hlower⟩ := lowerChar_cases d
    · omega
    · contradiction
    · rw [CapitalSpan.lower?_of_lower? hspan h hother] at he
      contradiction
    · apply hlower
  · rfl

theorem mem_lowerChar_dot (h : d ∈ lowerChar '\u0130') :
  d = 'i' ∨ d = '\u0307'
  := by
  have hd : d ∈ ['i', '\u0307'] := h
  simpa using hd

/-- The lower case of a character is its own lower case. -/
theorem lowerChar_of_mem (h : d ∈ lowerChar c) :
  lowerChar d = [d]
  := by
  obtain ⟨hascii, hlower⟩ | rfl | ⟨span, hspan, e, he, hlower⟩ | ⟨-, hlower⟩ := lowerChar_cases c
  · rw [hlower, List.mem_singleton] at h
    rw [h, lowerChar_toLower, hlower]
  · rcases mem_lowerChar_dot h with rfl | rfl <;> decide
  · rw [hlower, List.mem_singleton] at h
    rw [h]
    apply lowerChar_of_lower? hspan he
  · rw [hlower, List.mem_singleton] at h
    rw [h, hlower]

/-- An ASCII character in the lower case of another is an `i` or a `k`. -/
theorem toLower_of_mem (h : d ∈ lowerChar c) (hd : d.toNat < 128) :
  c.toLower = d ∨ d = 'i' ∨ d = 'k'
  := by
  obtain ⟨hascii, hlower⟩ | rfl | ⟨span, hspan, e, he, hlower⟩ | ⟨habove, hlower⟩ :=
    lowerChar_cases c
  · rw [hlower, List.mem_singleton] at h
    left
    rw [h]
  · right
    rcases mem_lowerChar_dot h with rfl | rfl
    · left
      rfl
    · contradiction
  · rw [hlower, List.mem_singleton] at h
    rw [h] at hd ⊢
    right
    right
    obtain ⟨habove, -⟩ | rfl := CapitalSpan.above_or_eq_of_lower? hspan he
    · omega
    · rfl
  · rw [hlower, List.mem_singleton] at h
    rw [h] at hd
    omega

/-- A lower case in ASCII, without `i` and `k`, is that of an ASCII character. -/
theorem lowerChar_eq_toLower (h : ∀ d ∈ lowerChar c, d.toNat < 128 ∧ d ≠ 'i' ∧ d ≠ 'k') :
  lowerChar c = [c.toLower]
  := by
  obtain ⟨d, hd⟩ := List.exists_mem_of_ne_nil _ (lowerChar_ne_nil (c := c))
  obtain ⟨hascii, hi, hk⟩ := h d hd
  have hlower : c.toLower = d := by
    obtain hlower | rfl | rfl := toLower_of_mem hd hascii
    · apply hlower
    · contradiction
    · contradiction
  rw [← lowerChar_toLower, hlower, lowerChar_of_mem hd]

end LumpRules.Text
