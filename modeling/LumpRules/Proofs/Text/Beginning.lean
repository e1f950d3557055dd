import LumpRules.Proofs.Text.Lowercase
import LumpRules.Text.Matching
import Mathlib.Data.List.Infix
import Mathlib.Data.List.TakeWhile

/-!
# Beginnings of a text in lower case

A wildcard asks what the lower case of a text begins with.  This need not be the lower case of a
part at the beginning of the text: a capital sigma may be final in the part only (`cutsSigma`), and
the capital I with a dot becomes two characters, between which the text has no cut.  `lowerBefore`
is the lower case of a part as it stands in the text, and `prefix_lowercase_iff` says what the lower
case of a text begins with.  `matchText_star_iff` concludes that nothing else keeps a wildcard from
being a comparison with some part of the text.
-/

namespace LumpRules.Text

variable {c : Char} {before past text more front rest marks start : List Char}

/-! ### A part of a text -/

/-- The lower case of a text that stands before another one, `before` being the characters already
passed. -/
def lowerBefore (before : List Char) : List Char → List Char → List Char
  | [], _ => []
  | c :: text, more => lowerBetween before c (text ++ more) ++ lowerBefore (c :: before) text more

theorem lowerBefore_nil :
  lowerBefore before text [] = lowerAfter before text
  := by
  induction text generalizing before with
  | nil => rfl
  | cons c text ih => rw [lowerBefore, lowerAfter, ih, List.append_nil]

/-- The lower case of a text is that of its two parts as they stand in it. -/
theorem lowerAfter_append_eq :
  lowerAfter before (text ++ more) =
    lowerBefore before text more ++ lowerAfter (text.reverse ++ before) more
  := by
  induction text generalizing before with
  | nil => rfl
  | cons c text ih =>
    rw [List.cons_append, lowerAfter, lowerBefore, ih, List.append_assoc, List.reverse_cons,
      List.append_assoc, List.singleton_append]

theorem lowercase_append_eq :
  lowercase (text ++ more) = lowerBefore [] text more ++ lowerAfter text.reverse more
  := by
  rw [lowercase, lowerAfter_append_eq, List.append_nil]

theorem lowerBefore_append :
  lowerBefore before (text ++ more) past =
    lowerBefore before text (more ++ past) ++ lowerBefore (text.reverse ++ before) more past
  := by
  induction text generalizing before with
  | nil => rfl
  | cons c text ih =>
    rw [List.cons_append, lowerBefore, lowerBefore, ih, List.append_assoc, List.append_assoc,
      List.reverse_cons, List.append_assoc, List.singleton_append]

/-- What stands behind a letter does not matter before it. -/
theorem lowerBefore_append_more (h : firstLetter? more ≠ none) :
  lowerBefore before text (more ++ past) = lowerBefore before text more
  := by
  induction text generalizing before with
  | nil => rfl
  | cons c text ih =>
    have hletter : firstLetter? (text ++ more) ≠ none := by
      rw [firstLetter?_append]
      intro hnone
      apply h (Option.or_eq_none_iff.mp hnone).2
    rw [lowerBefore, lowerBefore, ih, ← List.append_assoc, lowerBetween_append_after]
    intro hnone
    apply (hletter hnone).elim

/-- Without a capital sigma each character is folded by itself. -/
theorem lowerBefore_of_notMem (h : 'Σ' ∉ text) :
  lowerBefore before text more = text.flatMap lowerChar
  := by
  induction text generalizing before with
  | nil => rfl
  | cons c text ih =>
    obtain ⟨hc, htext⟩ := not_or.mp (mt List.mem_cons.mpr h)
    rw [lowerBefore, ih htext, lowerBetween, if_neg, List.flatMap_cons]
    simpa using Ne.symm hc

/-! ### The length of the lower case -/

/-- The number of characters in the lower case of a text. -/
def lowerLength (text : List Char) : Nat :=
  (text.flatMap lowerChar).length

@[simp]
theorem lowerLength_nil :
  lowerLength [] = 0
  := rfl

@[simp]
theorem lowerLength_append :
  lowerLength (text ++ more) = lowerLength text + lowerLength more
  := by
  simp [lowerLength]

theorem lowerLength_cons :
  lowerLength (c :: text) = (lowerChar c).length + lowerLength text
  := by
  simp [lowerLength]

/-- The capital I with a dot alone has more than one character in its lower case. -/
theorem length_lowerChar (hc : c ≠ '\u0130') :
  (lowerChar c).length = 1
  := by
  rw [lowerChar]
  split
  · rfl
  · rw [if_neg]
    · rfl
    · simpa [← Char.toNat_inj] using hc

theorem lowerLength_eq_zero_iff :
  lowerLength text = 0 ↔ text = []
  := by
  cases text with
  | nil => simp
  | cons c text =>
    have hpos := List.length_pos_iff.mpr (lowerChar_ne_nil (c := c))
    rw [lowerLength_cons]
    simp only [reduceCtorEq, iff_false]
    omega

theorem lowerBetween_sigma :
  lowerBetween before 'Σ' past = [if meetsCased before && !meetsCased past then 'ς' else 'σ']
  := rfl

theorem length_lowerBetween :
  (lowerBetween before c past).length = (lowerChar c).length
  := by
  by_cases hsigma : c = 'Σ'
  · subst hsigma
    rw [length_lowerChar (by decide)]
    rfl
  · rw [lowerBetween, if_neg (by simpa using hsigma)]

theorem length_lowerBefore :
  (lowerBefore before text more).length = lowerLength text
  := by
  induction text generalizing before with
  | nil => rfl
  | cons c text ih =>
    rw [lowerBefore, List.length_append, ih, length_lowerBetween, lowerLength_cons]

theorem length_lowercase (text : List Char) :
  (lowercase text).length = lowerLength text
  := by
  rw [lowercase, ← lowerBefore_nil, length_lowerBefore]

/-- Each number of characters of the lower case is reached between two characters of the text, or
between the two characters that a capital I with a dot becomes. -/
theorem exists_cut {n : Nat} (h : n ≤ lowerLength text) :
  (∃ front rest, text = front ++ rest ∧ lowerLength front = n) ∨
    ∃ front rest, text = front ++ '\u0130' :: rest ∧ lowerLength front + 1 = n
  := by
  induction text generalizing n with
  | nil =>
    left
    use [], [], rfl
    simpa using (Nat.le_zero.mp h).symm
  | cons c text ih =>
    by_cases hzero : n = 0
    · left
      exact ⟨[], c :: text, rfl, hzero.symm⟩
    by_cases hdot : c = '\u0130' ∧ n = 1
    · obtain ⟨rfl, rfl⟩ := hdot
      right
      exact ⟨[], text, rfl, rfl⟩
    have hc : (lowerChar c).length ≤ n := by
      by_cases heq : c = '\u0130'
      · have htwo : (lowerChar c).length = 2 := by
          rw [heq]
          rfl
        have hone : n ≠ 1 := fun hone => hdot ⟨heq, hone⟩
        omega
      · rw [length_lowerChar heq]
        omega
    have hrest : n - (lowerChar c).length ≤ lowerLength text := by
      rw [lowerLength_cons] at h
      omega
    obtain ⟨front, rest, rfl, hfront⟩ | ⟨front, rest, rfl, hfront⟩ :=
      ih hrest
    · left
      refine ⟨c :: front, rest, rfl, ?_⟩
      rw [lowerLength_cons]
      omega
    · right
      refine ⟨c :: front, rest, rfl, ?_⟩
      rw [lowerLength_cons]
      omega

/-- A text is cut in one place only if the lower case of the first part has a given length. -/
theorem eq_of_lowerLength {front' : List Char} (h : front <+: text) (h' : front' <+: text)
    (hlength : lowerLength front = lowerLength front') :
  front = front'
  := by
  wlog hprefix : front <+: front'
  · have hprefix' := (List.prefix_or_prefix_of_prefix h h').resolve_left hprefix
    apply (this h' h hlength.symm hprefix').symm
  obtain ⟨tail, rfl⟩ := hprefix
  have htail : lowerLength tail = 0 := by
    rw [lowerLength_append] at hlength
    omega
  rw [lowerLength_eq_zero_iff.mp htail, List.append_nil]

/-! ### A capital sigma at the cut -/

/-- Whether the last letter of a text is a capital sigma that ends a word in it, but not before
another text. -/
def cutsSigma (text more : List Char) : Bool :=
  match text.reverse.dropWhile isCaseIgnorable with
  | 'Σ' :: before => meetsCased before && meetsCased more
  | _ => false

theorem notMem_of_isCaseIgnorable (h : ∀ c ∈ marks, isCaseIgnorable c = true) :
  'Σ' ∉ marks
  := by
  intro hsigma
  have hignorable := h _ hsigma
  rw [isCaseIgnorable_eq_false (.inr rfl)] at hignorable
  contradiction

/-- The lower case of a text whose last letter is a capital sigma. -/
theorem lowerBefore_sigma (h : ∀ c ∈ marks, isCaseIgnorable c = true) :
  lowerBefore [] (front ++ 'Σ' :: marks) more =
    lowerBefore [] front ['Σ'] ++
      (if meetsCased front.reverse && !meetsCased more then 'ς' else 'σ') ::
        marks.flatMap lowerChar
  := by
  have hletter : firstLetter? ['Σ'] ≠ none := by
    rw [firstLetter?_cons_sigma]
    apply Option.some_ne_none
  have hmore : meetsCased (marks ++ more) = meetsCased more := by
    rw [meetsCased, meetsCased, List.dropWhile_append_of_pos h]
  rw [lowerBefore_append, ← List.singleton_append, List.append_assoc,
    lowerBefore_append_more hletter, List.singleton_append, lowerBefore,
    lowerBefore_of_notMem (notMem_of_isCaseIgnorable h), List.append_nil, lowerBetween_sigma, hmore]
  rfl

/-- A part has its own lower case in the text, unless the cut changes a capital sigma. -/
theorem lowerBefore_eq_lowercase_iff :
  lowerBefore [] text more = lowercase text ↔ cutsSigma text more = false
  := by
  have hsplit : text.reverse.takeWhile isCaseIgnorable ++ text.reverse.dropWhile isCaseIgnorable =
      text.reverse := List.takeWhile_append_dropWhile
  have hletter : firstLetter? text.reverse = (text.reverse.dropWhile isCaseIgnorable).head? := by
    rw [firstLetter?, List.find?_not_eq_head?_dropWhile]
  by_cases hsigma : ∃ past, text.reverse.dropWhile isCaseIgnorable = 'Σ' :: past
  · obtain ⟨past, hpast⟩ := hsigma
    generalize hmarks : text.reverse.takeWhile isCaseIgnorable = marks at hsplit
    have hignorable : ∀ c ∈ marks.reverse, isCaseIgnorable c = true := by
      intro c hc
      rw [← hmarks, List.mem_reverse] at hc
      apply List.mem_takeWhile_imp hc
    have htext : text = past.reverse ++ 'Σ' :: marks.reverse := by
      rw [hpast] at hsplit
      rw [← List.reverse_reverse text, ← hsplit]
      simp
    have hnil : meetsCased [] = false := rfl
    rw [cutsSigma, hpast, lowercase, ← lowerBefore_nil, htext, lowerBefore_sigma hignorable,
      lowerBefore_sigma hignorable, List.reverse_reverse, hnil]
    cases hcased : meetsCased past <;> cases meetsCased more <;> simp [hcased]
  · have hcuts : cutsSigma text more = false := by
      rw [cutsSigma]
      split
      · next past hpast => apply (hsigma ⟨past, hpast⟩).elim
      · rfl
    rw [hcuts, eq_self, iff_true]
    have hlast : firstLetter? text.reverse ≠ some 'Σ' := by
      rw [hletter]
      intro hhead
      obtain ⟨past, hpast⟩ := List.head?_eq_some_iff.mp hhead
      apply hsigma ⟨past, hpast⟩
    have hwhole : lowerBefore [] text more ++ lowerAfter text.reverse more =
        lowercase text ++ lowerAfter text.reverse more := by
      rw [← lowercase_append_eq, lowercase, lowercase, lowerAfter_append hlast, List.append_nil]
    apply List.append_cancel_right hwhole

/-! ### What the lower case begins with -/

theorem eq_of_prefix_append {α : Type} {start front rest : List α} (h : start <+: front ++ rest)
    (hlength : start.length = front.length) :
  start = front
  := by
  have hprefix := List.prefix_of_prefix_length_le h (List.prefix_append front rest) hlength.le
  apply hprefix.eq_of_length hlength

/-- What the lower case of a text begins with is the lower case of a part as it stands in the text,
perhaps with the first half of a capital I with a dot. -/
theorem prefix_lowercase_iff :
  start <+: lowercase text ↔
    (∃ front rest, text = front ++ rest ∧ start = lowerBefore [] front rest) ∨
      ∃ front rest, text = front ++ '\u0130' :: rest ∧
        start = lowerBefore [] front ('\u0130' :: rest) ++ ['i']
  := by
  have hdot : ∀ front rest, lowercase (front ++ '\u0130' :: rest) =
      lowerBefore [] front ('\u0130' :: rest) ++ ['i'] ++
        '\u0307' :: lowerAfter ('\u0130' :: front.reverse) rest := by
    intro front rest
    rw [lowercase_append_eq, List.append_assoc]
    rfl
  constructor
  · intro h
    have hlength := h.length_le
    rw [length_lowercase] at hlength
    obtain ⟨front, rest, rfl, hfront⟩ | ⟨front, rest, rfl, hfront⟩ := exists_cut hlength
    · left
      use front, rest, rfl
      rw [lowercase_append_eq] at h
      apply eq_of_prefix_append h
      rw [length_lowerBefore, hfront]
    · right
      use front, rest, rfl
      rw [hdot] at h
      apply eq_of_prefix_append h
      rw [List.length_append, length_lowerBefore, ← hfront, List.length_singleton]
  · rintro (⟨front, rest, rfl, rfl⟩ | ⟨front, rest, rfl, rfl⟩)
    · rw [lowercase_append_eq]
      apply List.prefix_append
    · rw [hdot]
      apply List.prefix_append

/-! ### Comparing texts -/

/-- Texts are compared in lower case. -/
theorem sameText_iff {a b : String} :
  sameText a b = true ↔ lowercase a.toList = lowercase b.toList
  := by
  rw [sameText]
  split
  · next hascii =>
    simp only [isAscii, Bool.and_eq_true, List.all_eq_true, decide_eq_true_eq] at hascii
    rw [lowercase_of_ascii hascii.1, lowercase_of_ascii hascii.2, sameName_iff, lowerAscii,
      lowerAscii, String.ofList_inj]
  · rw [beq_iff_eq]

/-- Beginnings are compared in lower case. -/
theorem startsWithText_iff {text start : String} :
  startsWithText text start = true ↔ lowercase start.toList <+: lowercase text.toList
  := by
  rw [startsWithText]
  split
  · next hascii =>
    simp only [isAscii, Bool.and_eq_true, List.all_eq_true, decide_eq_true_eq] at hascii
    rw [lowercase_of_ascii hascii.1, lowercase_of_ascii hascii.2, List.isPrefixOf_iff_prefix]
  · rw [List.isPrefixOf_iff_prefix]

theorem beforeStar?_append_star (start : String) :
  beforeStar? (start ++ "*") = some start
  := by
  rw [beforeStar?, String.toList_append, List.reverse_append]
  simp

theorem matchText_star {actual start : String} :
  matchText actual (start ++ "*") true = true ↔
    lowercase start.toList <+: lowercase actual.toList
  := by
  rw [matchText, if_pos rfl, beforeStar?_append_star, ← startsWithText_iff]

/-- The start, in lower case, ends at a place of the text where no cut leaves the lower case of the
text as it is. -/
inductive Misfits (text start : List Char) : Prop where
  /-- The cut there changes a capital sigma, and the start agrees with the part before it, either by
  itself or as it stands in the text. -/
  | sigma {front rest : List Char} :
      text = front ++ rest → cutsSigma front rest = true →
      lowercase start = lowercase front ∨ lowercase start = lowerBefore [] front rest →
      Misfits text start
  /-- The start ends between the two characters of a capital I with a dot. -/
  | dot {front rest : List Char} :
      text = front ++ '\u0130' :: rest →
      lowercase start = lowerBefore [] front ('\u0130' :: rest) ++ ['i'] →
      Misfits text start

theorem sigma_mem_of_cutsSigma (h : cutsSigma text more = true) :
  'Σ' ∈ text
  := by
  rw [cutsSigma] at h
  split at h
  · next past hpast =>
    rw [← List.mem_reverse]
    apply (List.dropWhile_suffix isCaseIgnorable).subset
    rw [hpast]
    apply List.mem_cons_self
  · contradiction

/-- In a text without these two letters every start fits. -/
theorem Misfits.mem (h : Misfits text start) :
  'Σ' ∈ text ∨ '\u0130' ∈ text
  := by
  cases h with
  | sigma htext hcuts _ =>
    left
    rw [htext]
    apply List.mem_append_left _ (sigma_mem_of_cutsSigma hcuts)
  | dot htext _ =>
    right
    rw [htext]
    apply List.mem_append_right _ (List.mem_cons_self ..)

/-- Some part at the beginning of a text has the lower case of the start. -/
def HasPart (text start : List Char) : Prop :=
  ∃ front rest, text = front ++ rest ∧ lowercase front = lowercase start

theorem prefix_iff_of_not_misfits (h : ¬ Misfits text start) :
  lowercase start <+: lowercase text ↔ HasPart text start
  := by
  rw [prefix_lowercase_iff]
  constructor
  · rintro (⟨front, rest, htext, hstart⟩ | ⟨front, rest, htext, hstart⟩)
    · use front, rest, htext
      rw [hstart, eq_comm, lowerBefore_eq_lowercase_iff]
      by_contra hcuts
      apply h (.sigma htext (Bool.of_not_eq_false hcuts) (.inr hstart))
    · apply (h (.dot htext hstart)).elim
  · rintro ⟨front, rest, htext, hstart⟩
    left
    use front, rest, htext
    rw [← hstart, eq_comm, lowerBefore_eq_lowercase_iff]
    by_contra hcuts
    apply h (.sigma htext (Bool.of_not_eq_false hcuts) (.inl hstart.symm))

theorem not_prefix_iff_of_misfits (h : Misfits text start) :
  ¬ (lowercase start <+: lowercase text ↔ HasPart text start)
  := by
  cases h with
  | @sigma front rest htext hcuts hstart =>
    have hne : lowerBefore [] front rest ≠ lowercase front := by
      rw [Ne, lowerBefore_eq_lowercase_iff, hcuts]
      simp
    rcases hstart with hstart | hstart
    · intro hiff
      have hprefix := hiff.mpr ⟨front, rest, htext, hstart.symm⟩
      rw [htext, lowercase_append_eq, hstart] at hprefix
      apply hne
      symm
      apply eq_of_prefix_append hprefix
      rw [length_lowercase, length_lowerBefore]
    · intro hiff
      have hpart : HasPart text start := by
        apply hiff.mp
        rw [htext, lowercase_append_eq, hstart]
        apply List.prefix_append
      obtain ⟨front', rest', htext', hstart'⟩ := hpart
      have hlength : lowerLength front = lowerLength front' := by
        rw [← length_lowercase front', hstart', hstart, length_lowerBefore]
      obtain rfl := eq_of_lowerLength ⟨rest, htext.symm⟩ ⟨rest', htext'.symm⟩ hlength
      apply hne
      rw [hstart', hstart]
  | @dot front rest htext hstart =>
    intro hiff
    have hpart : HasPart text start := by
      apply hiff.mp
      rw [prefix_lowercase_iff]
      right
      exact ⟨front, rest, htext, hstart⟩
    obtain ⟨front', rest', htext', hstart'⟩ := hpart
    have hlength : lowerLength front' = lowerLength front + 1 := by
      rw [← length_lowercase, hstart', hstart, List.length_append, length_lowerBefore]
      rfl
    have hdot : lowerLength (front ++ ['\u0130']) = lowerLength front + 2 := by
      rw [lowerLength_append]
      rfl
    have hprefix : front ++ ['\u0130'] <+: text := by
      rw [htext]
      exact ⟨rest, by simp⟩
    rcases List.prefix_or_prefix_of_prefix hprefix ⟨rest', htext'.symm⟩ with ⟨tail, rfl⟩ | htail
    · rw [lowerLength_append, hdot] at hlength
      omega
    · rcases List.prefix_concat_iff.mp htail with rfl | ⟨tail, rfl⟩
      · omega
      · rw [lowerLength_append] at hlength
        omega

theorem hasPart_iff {actual start : String} :
  HasPart actual.toList start.toList ↔
    ∃ front rest, actual = front ++ rest ∧ matchText front start false = true
  := by
  simp only [matchText, Bool.false_eq_true, if_false, sameText_iff]
  constructor
  · rintro ⟨front, rest, htext, hfront⟩
    use String.ofList front, String.ofList rest
    rw [String.toList_ofList]
    use String.toList_inj.mp (by simpa using htext)
  · rintro ⟨front, rest, rfl, hfront⟩
    exact ⟨front.toList, rest.toList, String.toList_append, hfront⟩

/-- That a text matches a wildcard means that some part at its beginning matches what stands before
the star, unless this misfits the text, and only then; it does mean so in a text without the capital
sigma and the capital I with a dot.  A text matches its own beginning with a star unless the end of
that cuts a capital sigma. -/
theorem matchText_star_iff (actual start : String) :
  ((matchText actual (start ++ "*") true = true ↔
      ∃ front rest, actual = front ++ rest ∧ matchText front start false = true) ↔
    ¬ Misfits actual.toList start.toList) ∧
  ('Σ' ∉ actual.toList → '\u0130' ∉ actual.toList →
    (matchText actual (start ++ "*") true = true ↔
      ∃ front rest, actual = front ++ rest ∧ matchText front start false = true)) ∧
  ∀ rest : String, matchText (start ++ rest) (start ++ "*") true = true ↔
    cutsSigma start.toList rest.toList = false
  := by
  rw [matchText_star, ← hasPart_iff]
  refine ⟨?_, ?_, ?_⟩
  · constructor
    · intro hiff hmisfits
      apply not_prefix_iff_of_misfits hmisfits hiff
    · apply prefix_iff_of_not_misfits
  · intro hsigma hdot
    apply prefix_iff_of_not_misfits
    intro hmisfits
    rcases hmisfits.mem with hmem | hmem
    · apply hsigma hmem
    · apply hdot hmem
  · intro rest
    rw [matchText_star, String.toList_append, lowercase_append_eq, ← lowerBefore_eq_lowercase_iff]
    constructor
    · intro hprefix
      symm
      apply eq_of_prefix_append hprefix
      rw [length_lowercase, length_lowerBefore]
    · intro heq
      rw [heq]
      apply List.prefix_append

/-- A capital sigma that is final before the star, but not in the text. -/
theorem matchText_star_sigma :
  matchText ("ΑΣ" ++ "Α") ("ΑΣ" ++ "*") true = false
  := by
  decide +kernel

end LumpRules.Text
