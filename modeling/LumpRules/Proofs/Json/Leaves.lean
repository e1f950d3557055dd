import LumpRules.Proofs.Json.Notation

/-!
# The leaves of a JSON value

What the readers of strings, numbers and words take off the front of a text does not depend on
what comes after it: `readString_sound` shows that the content of a string is a literal wherever
it stands, and `readNumber_sound` and `readWord_sound` that the text of a number or a name is.
-/

namespace LumpRules.Json

open Decimal Text Document

variable {text rest body name digits : List Char} {c : Char}

/-! ### Strings -/

/-- What writes one character of a string, wherever it stands. -/
structure IsPiece (piece : List Char) (c : Char) : Prop where
  content : ∀ body, IsContent body → IsContent (piece ++ body)
  line : '\n' ∉ piece
  reads : ∀ text, readString .full (piece ++ text) = consChar c (readString .full text)

theorem hexUnit?_chars {a b c d x : Char} {unit : Nat} (h : hexUnit? a b c d = some unit)
    (hx : x ∈ [a, b, c, d]) :
  x ≠ '"' ∧ x ≠ '\\' ∧ x ≠ '\n'
  := by
  have hvalue : ∃ n, hexValue? x = some n := by
    simp only [hexUnit?, bind, Option.bind_eq_some_iff] at h
    obtain ⟨p, hp, q, hq, r, hr, s, hs, -⟩ := h
    simp only [List.mem_cons, List.not_mem_nil, or_false] at hx
    rcases hx with rfl | rfl | rfl | rfl
    · use p
    · use q
    · use r
    · use s
  obtain ⟨n, hn⟩ := hvalue
  refine ⟨?_, ?_, ?_⟩ <;>
  · rintro rfl
    simp [hexValue?] at hn

/-- Four digits of base sixteen may stand in a string. -/
theorem isContent_hexUnit {a b c d : Char} {unit : Nat} (h : hexUnit? a b c d = some unit)
    (hbody : IsContent body) :
  IsContent (a :: b :: c :: d :: body)
  := by
  have hplain : ∀ x ∈ [a, b, c, d], ∀ rest, IsContent rest → IsContent (x :: rest) := by
    intro x hx rest hrest
    obtain ⟨hquote, hslash, -⟩ := hexUnit?_chars h hx
    apply IsContent.plain hquote hslash hrest
  apply hplain a (by simp)
  apply hplain b (by simp)
  apply hplain c (by simp)
  apply hplain d (by simp) _ hbody

theorem hexUnit?_line {a b c d : Char} {unit : Nat} (h : hexUnit? a b c d = some unit) :
  '\n' ∉ [a, b, c, d]
  := by
  intro hline
  obtain ⟨-, -, hne⟩ := hexUnit?_chars h hline
  apply hne rfl

theorem isPiece_plain (hcontrol : ¬ c.toNat < 0x20) (hquote : c ≠ '"') (hslash : c ≠ '\\') :
  IsPiece [c] c where
  content _ hbody := .plain hquote hslash hbody
  line := by
    intro hline
    obtain rfl := List.mem_singleton.mp hline
    apply hcontrol (by decide)
  reads text := readString_cons hcontrol hquote hslash

theorem isPiece_escape {e : Char} (h : simpleEscape? e = some c) :
  IsPiece ['\\', e] c where
  content _ hbody := .escape hbody
  line := by
    rw [List.mem_cons, List.mem_singleton]
    rintro (hline | rfl)
    · simp at hline
    · simp [simpleEscape?] at h
  reads text := by
    have hu : e ≠ 'u' := by
      rintro rfl
      simp [simpleEscape?] at h
    rw [List.cons_append, List.singleton_append, readString, h]
    · intro _ _ _ _ _ hc
      apply (hu hc).elim
    · apply hu

theorem isPiece_unit {a b c d : Char} {unit : Nat} (h : hexUnit? a b c d = some unit)
    (hlow : ¬ isLowSurrogate unit = true) (hhigh : ¬ isHighSurrogate unit = true) :
  IsPiece ['\\', 'u', a, b, c, d] (Char.ofNat unit) where
  content _ hbody := .escape (isContent_hexUnit h hbody)
  line := by
    have := hexUnit?_line h
    simp_all
  reads text := by
    simp only [List.cons_append, List.nil_append]
    rw [readString, h]
    simp [hlow, hhigh]

theorem isPiece_pair {a b c d e f g i : Char} {unit low : Nat}
    (h : hexUnit? a b c d = some unit) (hhigh : isHighSurrogate unit = true)
    (hlow : ¬ isLowSurrogate unit = true)
    (h' : hexUnit? e f g i = some low) (hlow' : isLowSurrogate low = true) :
  IsPiece ['\\', 'u', a, b, c, d, '\\', 'u', e, f, g, i] (ofSurrogates unit low) where
  content _ hbody := .escape (isContent_hexUnit h (.escape (isContent_hexUnit h' hbody)))
  line := by
    have := hexUnit?_line h
    have := hexUnit?_line h'
    simp_all
  reads text := by
    simp only [List.cons_append, List.nil_append]
    rw [readString, h]
    simp [hlow, hhigh, h', hlow']

theorem isLiteral_nil :
  IsLiteral [] []
  := by
  refine ⟨.nil, by simp, ?_⟩
  intro rest
  rfl

/-- One more character before a literal. -/
theorem IsPiece.isLiteral {piece : List Char} (hpiece : IsPiece piece c)
    (h : IsLiteral body name) :
  IsLiteral (piece ++ body) (c :: name)
  := by
  obtain ⟨hcontent, hline, hreads⟩ := h
  refine ⟨hpiece.content body hcontent, ?_, ?_⟩
  · rw [List.mem_append]
    rintro (h | h)
    · apply hpiece.line h
    · apply hline h
  · intro rest
    rw [List.append_assoc, hpiece.reads, hreads]
    rfl

/-- A text that starts with a piece is a literal if the rest of it is. -/
theorem IsPiece.exists_literal {piece : List Char} (hpiece : IsPiece piece c)
    (h : consChar c (readString .full text) = .ok (name, rest))
    (ih : ∀ {name}, readString .full text = .ok (name, rest) →
      ∃ body, IsLiteral body name ∧ text = body ++ '"' :: rest) :
  ∃ body, IsLiteral body name ∧ piece ++ text = body ++ '"' :: rest
  := by
  cases hread : readString .full text with
  | error error => simp [hread, consChar] at h
  | ok found =>
    obtain ⟨tail, left⟩ := found
    simp only [hread, consChar, Except.ok.injEq, Prod.mk.injEq] at h
    obtain ⟨rfl, rfl⟩ := h
    obtain ⟨body, hbody, rfl⟩ := ih hread
    use piece ++ body, hpiece.isLiteral hbody
    simp

/-- What is read up to the closing quote is a literal. -/
theorem readString_sound (h : readString .full text = .ok (name, rest)) :
  ∃ body, IsLiteral body name ∧ text = body ++ '"' :: rest
  := by
  fun_induction readString .full text generalizing name with
  | case2 left =>
    obtain ⟨rfl, rfl⟩ := Prod.mk.inj (Except.ok.inj h)
    use [], isLiteral_nil
    rfl
  | case4 _ _ _ _ _ _ _ hpassing => simp at hpassing
  | case7 a b c d unit hunit _ hlow hhigh e f g i left low hunit' hlow' ih =>
    apply (isPiece_pair hunit hhigh hlow hunit' hlow').exists_literal h ih
  | case13 a b c d left unit hunit _ hlow hhigh ih =>
    apply (isPiece_unit hunit hlow hhigh).exists_literal h ih
  | case15 e left _ _ c hescape ih => apply (isPiece_escape hescape).exists_literal h ih
  | case19 c left hquote _ _ _ hcontrol hslash ih =>
    apply (isPiece_plain hcontrol hquote hslash).exists_literal h ih
  | _ => simp at h

/-! ### Numbers -/

/-- Whether a character may go on with a number after its whole part. -/
def isFractionChar (c : Char) : Bool :=
  c.isDigit || c == '.'

/-- A part of a number: it is read as `a` where no character of the kind `after` comes next, and
then none of the kind `before` stands at its own start. -/
structure IsPart {α : Type} (reader : Reader α) (before after : Char → Bool) (word : List Char)
    (a : α) : Prop where
  scalar : ∀ c ∈ word, isScalarChar c = true
  reads : ∀ rest, Lacks after rest → reader (word ++ rest) = .ok (a, rest)
  opens : ∀ rest, Lacks after rest → Lacks before (word ++ rest)

theorem isScalarChar_of_isDigit (h : c.isDigit = true) :
  isScalarChar c = true
  := by
  simp [isScalarChar, Char.isAlphanum, h]

theorem isScalarChar_of_isFractionChar (h : isFractionChar c = true) :
  isScalarChar c = true
  := by
  simp only [isFractionChar, Bool.or_eq_true, beq_iff_eq] at h
  rcases h with h | rfl
  · apply isScalarChar_of_isDigit h
  · decide

theorem readDigits_sound (h : readDigits text = .ok (digits, rest)) :
  digits ≠ [] ∧ (∀ c ∈ digits, c.isDigit = true) ∧ text = digits ++ rest
  := by
  rw [readDigits, List.span_eq_takeWhile_dropWhile] at h
  split at h
  · simp at h
  · simp at h
  · next found left hempty hshort hspan =>
    obtain ⟨hfound, hleft⟩ := Prod.mk.inj hspan
    obtain ⟨rfl, rfl⟩ := Prod.mk.inj (Except.ok.inj h)
    refine ⟨?_, ?_, ?_⟩
    · rintro rfl
      cases left with
      | nil => apply hempty rfl rfl
      | cons c left => apply hshort c left rfl rfl
    · intro c hc
      rw [← hfound] at hc
      apply List.mem_takeWhile_imp hc
    · rw [← hfound, ← hleft, List.takeWhile_append_dropWhile]

theorem readDigits_append (hne : digits ≠ []) (hall : ∀ c ∈ digits, c.isDigit = true)
    (hrest : Lacks Char.isDigit rest) :
  readDigits (digits ++ rest) = .ok (digits, rest)
  := by
  obtain ⟨htake, hdrop⟩ := takeWhile_lacks hall hrest
  rw [readDigits, List.span_eq_takeWhile_dropWhile, htake, hdrop]
  cases digits with
  | nil => apply (hne rfl).elim
  | cons c digits => rfl

theorem readWhole_sound (h : readWhole text = .ok (digits, rest)) :
  IsPart readWhole (fun _ => false) Char.isDigit digits digits ∧ digits ≠ [] ∧
    text = digits ++ rest
  := by
  obtain ⟨⟨found, left⟩, hfound, h⟩ := bind_eq_ok.mp h
  obtain ⟨hne, hall, htext⟩ := readDigits_sound hfound
  have hwhole : (∀ c more, found ≠ '0' :: c :: more) ∧ found = digits ∧ left = rest := by
    simp only at h
    split at h
    · simp at h
    · next hzero =>
      constructor
      · intro c more hfound
        apply hzero c more hfound
      · apply Prod.mk.inj (Except.ok.inj h)
  obtain ⟨hzero, rfl, rfl⟩ := hwhole
  refine ⟨⟨?_, ?_, ?_⟩, hne, htext⟩
  · intro c hc
    apply isScalarChar_of_isDigit (hall c hc)
  · intro rest hrest
    rw [readWhole, bind_eq_ok]
    use (found, rest), readDigits_append hne hall hrest
    simp only
  · intro rest hrest c hc
    rfl

/-- Without a point there is no fraction. -/
theorem readFraction_skip (h : ∀ tail, text ≠ '.' :: tail) :
  readFraction text = .ok ([], text)
  := by
  rw [readFraction]
  apply h

theorem readFraction_sound {fraction : List Char} (h : readFraction text = .ok (fraction, rest)) :
  ∃ word, IsPart readFraction Char.isDigit isFractionChar word fraction ∧ text = word ++ rest
  := by
  have hmono : ∀ c, c.isDigit = true → isFractionChar c = true := by
    intro c hc
    simp [isFractionChar, hc]
  by_cases hpoint : ∃ tail, text = '.' :: tail
  · obtain ⟨tail, rfl⟩ := hpoint
    obtain ⟨hne, hall, rfl⟩ := readDigits_sound h
    use '.' :: fraction
    refine ⟨⟨?_, ?_, ?_⟩, rfl⟩
    · intro c hc
      rcases List.mem_cons.mp hc with rfl | hc
      · decide
      · apply isScalarChar_of_isDigit (hall c hc)
    · intro rest hrest
      apply readDigits_append hne hall (hrest.mono hmono)
    · intro rest hrest
      apply lacks_cons (by decide)
  · rw [readFraction_skip fun tail htail => hpoint ⟨tail, htail⟩] at h
    obtain ⟨rfl, rfl⟩ := Prod.mk.inj (Except.ok.inj h)
    use []
    refine ⟨⟨by simp, ?_, ?_⟩, rfl⟩
    · intro rest hrest
      apply readFraction_skip
      intro tail htail
      rw [List.nil_append] at htail
      simp [Lacks, htail, isFractionChar] at hrest
    · intro rest hrest
      apply hrest.mono hmono

/-- A sign that stands before a digit. -/
theorem signed_sound (text : List Char) :
  ∃ sign, (∀ c ∈ sign, isScalarChar c = true) ∧ text = sign ++ (signed text).2 ∧
    ∀ c rest, c.isDigit = true → signed (sign ++ c :: rest) = ((signed text).1, c :: rest)
  := by
  fun_cases signed text with
  | case1 rest =>
    use ['-']
    simp [signed, isScalarChar]
  | case2 rest =>
    use ['+']
    simp [signed, isScalarChar]
  | case3 text hminus hplus =>
    use []
    refine ⟨by simp, rfl, ?_⟩
    intro c rest hc
    rw [List.nil_append, signed]
    · rintro _ heq
      obtain ⟨rfl, -⟩ := List.cons.inj heq
      simp at hc
    · rintro _ heq
      obtain ⟨rfl, -⟩ := List.cons.inj heq
      simp at hc

/-- Without its letter there is no exponent. -/
theorem readExponent_skip (h : ∀ c tail, text = c :: tail → ¬ (c = 'e' ∨ c = 'E')) :
  readExponent text = .ok (none, text)
  := by
  cases text with
  | nil => rfl
  | cons c tail =>
    have hc := h c tail rfl
    simp [readExponent, hc]

theorem readExponent_marked {tail : List Char} {exponent : Option Int}
    (hc : c = 'e' ∨ c = 'E') (h : readExponent (c :: tail) = .ok (exponent, rest)) :
  ∃ word, IsPart readExponent isFractionChar isScalarChar word exponent ∧
    c :: tail = word ++ rest
  := by
  have hmarked : (decide (c = 'e') || decide (c = 'E')) = true := by
    simpa using hc
  obtain ⟨sign, hsign, htail, hsigned⟩ := signed_sound tail
  simp only [readExponent, hmarked, if_true] at h
  obtain ⟨⟨digits, left⟩, hdigits, h⟩ := bind_eq_ok.mp h
  obtain ⟨hne, hall, hleft⟩ := readDigits_sound hdigits
  obtain ⟨rfl, rfl⟩ := Prod.mk.inj (Except.ok.inj h)
  use c :: (sign ++ digits)
  refine ⟨⟨?_, ?_, ?_⟩, ?_⟩
  · intro d hd
    rw [List.mem_cons, List.mem_append] at hd
    rcases hd with rfl | hd | hd
    · rcases hc with rfl | rfl <;> decide
    · apply hsign d hd
    · apply isScalarChar_of_isDigit (hall d hd)
  · intro rest hrest
    have hread := readDigits_append hne hall (hrest.mono fun c => isScalarChar_of_isDigit)
    have hsign : signed (sign ++ (digits ++ rest)) = ((signed tail).1, digits ++ rest) := by
      cases digits with
      | nil => apply (hne rfl).elim
      | cons d digits => apply hsigned d _ (hall d (List.mem_cons_self ..))
    rw [List.cons_append, List.append_assoc]
    simp only [readExponent, hmarked, if_true, hsign, hread]
    rfl
  · intro rest hrest
    apply lacks_cons
    rcases hc with rfl | rfl <;> decide
  · rw [htail, hleft]
    simp

theorem readExponent_sound {exponent : Option Int} (h : readExponent text = .ok (exponent, rest)) :
  ∃ word, IsPart readExponent isFractionChar isScalarChar word exponent ∧ text = word ++ rest
  := by
  by_cases hmark : ∃ c tail, text = c :: tail ∧ (c = 'e' ∨ c = 'E')
  · obtain ⟨c, tail, rfl, hc⟩ := hmark
    apply readExponent_marked hc h
  · have hnone : ∀ c tail, text = c :: tail → ¬ (c = 'e' ∨ c = 'E') := by
      intro c tail htext hc
      apply hmark ⟨c, tail, htext, hc⟩
    rw [readExponent_skip hnone] at h
    obtain ⟨rfl, rfl⟩ := Prod.mk.inj (Except.ok.inj h)
    use []
    refine ⟨⟨by simp, ?_, ?_⟩, rfl⟩
    · intro rest hrest
      apply readExponent_skip
      intro c tail htail hc
      rw [List.nil_append] at htail
      have hscalar : isScalarChar c = false := hrest c (by simp [htail])
      rcases hc with rfl | rfl <;> simp [isScalarChar] at hscalar
    · intro rest hrest
      apply hrest.mono fun c => isScalarChar_of_isFractionChar

/-- A number without its sign is read the same wherever it stands. -/
theorem readNumber_sound {negative : Bool} {number : JsonNumber}
    (h : readNumber .full negative text = .ok (number, rest)) :
  ∃ word, IsPart (readNumber .full negative) (fun _ => false) isScalarChar word number ∧
    word ≠ [] ∧ text = word ++ rest
  := by
  obtain ⟨⟨whole, afterWhole⟩, hwhole, h⟩ := bind_eq_ok.mp h
  obtain ⟨⟨fraction, afterFraction⟩, hfraction, h⟩ := bind_eq_ok.mp h
  obtain ⟨⟨exponent, afterExponent⟩, hexponent, h⟩ := bind_eq_ok.mp h
  obtain ⟨wholePart, hne, htext⟩ := readWhole_sound hwhole
  obtain ⟨fractionWord, fractionPart, hafterWhole⟩ := readFraction_sound hfraction
  obtain ⟨exponentWord, exponentPart, hafterFraction⟩ := readExponent_sound hexponent
  simp only at h
  split at h
  · next n hn =>
    obtain ⟨rfl, rfl⟩ := Prod.mk.inj (Except.ok.inj h)
    use whole ++ (fractionWord ++ exponentWord)
    refine ⟨⟨?_, ?_, ?_⟩, by simp [hne], ?_⟩
    · intro c hc
      simp only [List.mem_append] at hc
      rcases hc with hc | hc | hc
      · apply wholePart.scalar c hc
      · apply fractionPart.scalar c hc
      · apply exponentPart.scalar c hc
    · intro rest hrest
      have hopen := exponentPart.opens rest hrest
      rw [readNumber, List.append_assoc, List.append_assoc, bind_eq_ok]
      use (whole, fractionWord ++ (exponentWord ++ rest)),
        wholePart.reads _ (fractionPart.opens _ hopen)
      rw [bind_eq_ok]
      use (fraction, exponentWord ++ rest), fractionPart.reads _ hopen
      rw [bind_eq_ok]
      use (exponent, rest), exponentPart.reads rest hrest
      simp only [hn]
    · intro rest hrest c hc
      rfl
    · rw [htext, hafterWhole, hafterFraction]
      simp
  · simp at h

/-! ### Words -/

/-- The rest of a name is read the same wherever it stands. -/
theorem readWord_sound {α : Type} {value a : α} {word : List Char}
    (h : readWord value word text = .ok (a, rest)) :
  a = value ∧ text = word ++ rest
  := by
  induction word generalizing text with
  | nil =>
    obtain ⟨rfl, rfl⟩ := Prod.mk.inj (Except.ok.inj h)
    apply And.intro rfl rfl
  | cons c word ih =>
    cases text with
    | nil => simp [readWord] at h
    | cons d tail =>
      by_cases hc : c = d
      · rw [readWord, if_pos hc] at h
        obtain ⟨rfl, rfl⟩ := ih h
        rw [hc]
        apply And.intro rfl rfl
      · simp [readWord, hc] at h

theorem readWord_append {α : Type} {value : α} {word : List Char} :
  readWord value word (word ++ rest) = .ok (value, rest)
  := by
  induction word with
  | nil => rfl
  | cons c word ih => rw [List.cons_append, readWord, if_pos rfl, ih]

end LumpRules.Json
