import LumpRules.Document.Commas
import LumpRules.Json.Reader
import LumpRules.Proofs.Document.Recognition

/-!
# Tokens

A JSON text is a row of tokens with space between them: marks, strings and words, a word being a
number or a name such as `true`.  `tokens` takes a text apart, and `Spaced` relates a row of
tokens to the texts that show it with gaps of some language before each of them.
-/

namespace LumpRules.Json

open Text Document

/-- A token: a bracket or separator, what stands between the quotes of a string, or a word. -/
inductive Token where
  | mark (c : Char)
  | string (body : List Char)
  | word (text : List Char)
  deriving DecidableEq

namespace Token

/-- The text of a token. -/
def text : Token → List Char
  | .mark c => [c]
  | .string body => '"' :: body ++ ['"']
  | .word text => text

/-- The comma between members and elements. -/
def comma : Token := .mark ','

/-- Whether a token closes an object or an array. -/
def isCloser : Token → Bool
  | .mark c => Document.isCloser c
  | _ => false

/-- Whether a token may occur in a document: a string ends at its quote and on its line, and a
word is not empty. -/
def IsProper : Token → Prop
  | .mark c => c ∈ ['{', '}', '[', ']', ':', ',']
  | .string body => IsContent body ∧ '\n' ∉ body
  | .word text => IsScalar text

end Token

/-! ### Texts with gaps -/

/-- A text that shows a row of tokens, with a gap before each of them. -/
inductive Spaced (gap : List Char → Prop) : List Token → List Char → Prop where
  | nil : Spaced gap [] []
  | cons {token : Token} {tokens : List Token} {space rest : List Char} :
      gap space → Spaced gap tokens rest →
      Spaced gap (token :: tokens) (space ++ (token.text ++ rest))

variable {gap : List Char → Prop} {token : Token} {first second : List Token}
  {text body word space rest : List Char} {c : Char}

/-- The gap and the text of the first token, and the text of the others. -/
theorem spaced_cons_iff :
  Spaced gap (token :: first) text ↔
    ∃ space rest, gap space ∧ Spaced gap first rest ∧ text = space ++ (token.text ++ rest)
  := by
  constructor
  · intro h
    cases h with
    | cons hspace hrest => exact ⟨_, _, hspace, hrest, rfl⟩
  · rintro ⟨space, rest, hspace, hrest, rfl⟩
    apply Spaced.cons hspace hrest

/-- The text of a row is the text of its first part and then that of its second part. -/
theorem spaced_append_iff :
  Spaced gap (first ++ second) text ↔
    ∃ before after, Spaced gap first before ∧ Spaced gap second after ∧ text = before ++ after
  := by
  induction first generalizing text with
  | nil =>
    constructor
    · intro h
      use [], text, .nil, h
      rfl
    · rintro ⟨before, after, hbefore, hafter, rfl⟩
      cases hbefore
      apply hafter
  | cons token first ih =>
    constructor
    · intro h
      obtain ⟨space, rest, hspace, hrest, rfl⟩ := spaced_cons_iff.mp h
      obtain ⟨before, after, hbefore, hafter, rfl⟩ := ih.mp hrest
      use space ++ (token.text ++ before), after, .cons hspace hbefore, hafter
      simp
    · rintro ⟨before, after, hbefore, hafter, rfl⟩
      obtain ⟨space, rest, hspace, hrest, rfl⟩ := spaced_cons_iff.mp hbefore
      apply spaced_cons_iff.mpr
      use space, rest ++ after, hspace, ih.mpr ⟨rest, after, hrest, hafter, rfl⟩
      simp

/-- Space between the tokens of a JSON text. -/
def IsSpace (text : List Char) : Prop :=
  ∀ c ∈ text, isSpace c = true

theorem isBlank_of_isSpace (h : isSpace c = true) :
  isBlank c = true
  := by
  simp only [isSpace, Bool.or_eq_true, beq_iff_eq] at h
  rcases h with ((rfl | rfl) | rfl) | rfl <;> decide

theorem IsSpace.isGap (h : IsSpace text) :
  IsGap text
  := by
  intro c hc
  apply isBlank_of_isSpace (h c hc)

theorem skipSpace_append (h : IsSpace space) :
  skipSpace (space ++ rest) = skipSpace rest
  := List.dropWhile_append_of_pos h

theorem skipSpace_cons (h : isSpace c = false) :
  skipSpace (c :: rest) = c :: rest
  := by
  simp [skipSpace, h]

/-- Skipping space takes space off the front. -/
theorem exists_space (text : List Char) :
  ∃ space, IsSpace space ∧ text = space ++ skipSpace text
  := by
  use text.takeWhile isSpace
  constructor
  · intro c hc
    apply List.mem_takeWhile_imp hc
  · symm
    apply List.takeWhile_append_dropWhile

/-- Space may be put before the first token. -/
theorem Spaced.prepend (h : Spaced IsSpace (token :: first) text) (hspace : IsSpace space) :
  Spaced IsSpace (token :: first) (space ++ text)
  := by
  obtain ⟨space', rest, hspace', hrest, rfl⟩ := spaced_cons_iff.mp h
  rw [← List.append_assoc]
  apply Spaced.cons _ hrest
  intro c hc
  rcases List.mem_append.mp hc with hc | hc
  · apply hspace c hc
  · apply hspace' c hc

/-- A word whose characters all pass through a function unchanged passes as a whole. -/
theorem append_of_passes {f : List Char → List Char}
    (h : ∀ c ∈ word, ∀ rest, f (c :: rest) = c :: f rest) :
  f (word ++ rest) = word ++ f rest
  := by
  induction word with
  | nil => rfl
  | cons c word ih =>
    rw [List.forall_mem_cons] at h
    rw [List.cons_append, h.1, ih h.2]
    rfl

/-- A function turns a text into another one, whatever comes after it. -/
def Turns (f : List Char → List Char) (text text' : List Char) : Prop :=
  ∀ rest, f (text ++ rest) = text' ++ f rest

theorem Turns.append {f : List Char → List Char} {text' more more' : List Char}
    (h : Turns f text text') (h' : Turns f more more') :
  Turns f (text ++ more) (text' ++ more')
  := by
  intro rest
  rw [List.append_assoc, h, h', List.append_assoc]

theorem Turns.apply_eq {f : List Char → List Char} {text' : List Char} (h : Turns f text text') :
  f text = text' ++ f []
  := by
  have hnil := h []
  rwa [List.append_nil] at hnil

theorem turns_word {f : List Char → List Char} (h : ∀ c ∈ word, Turns f [c] [c]) :
  Turns f word word
  := fun _ => append_of_passes h

/-! ### Taking a text apart -/

/-- What stands between the quotes of a string, and what is left after it, from after the
opening quote. -/
def stringSpan : List Char → List Char × List Char
  | [] => ([], [])
  | '"' :: rest => ([], rest)
  | '\\' :: c :: rest => ('\\' :: c :: (stringSpan rest).1, (stringSpan rest).2)
  | c :: rest => (c :: (stringSpan rest).1, (stringSpan rest).2)

theorem length_stringSpan_le (text : List Char) :
  (stringSpan text).2.length ≤ text.length
  := by
  fun_induction stringSpan text <;> simp_all <;> omega

/-- The tokens of a text. -/
def tokens : List Char → List Token
  | [] => []
  | c :: rest =>
    if isSpace c then tokens rest
    else if c = '"' then .string (stringSpan rest).1 :: tokens (stringSpan rest).2
    else if isScalarChar c then
      .word (c :: rest.takeWhile isScalarChar) :: tokens (rest.dropWhile isScalarChar)
    else .mark c :: tokens rest
  termination_by text => text.length
  decreasing_by
    · simp
    · have := length_stringSpan_le rest
      simp only [List.length_cons]
      omega
    · have := List.length_dropWhile_le isScalarChar rest
      simp only [List.length_cons]
      omega
    · simp

theorem tokens_space (h : IsSpace space) :
  tokens (space ++ rest) = tokens rest
  := by
  induction space with
  | nil => rfl
  | cons c space ih =>
    have hc : isSpace c = true := h c (List.mem_cons_self ..)
    rw [List.cons_append, tokens, if_pos hc]
    apply ih
    intro d hd
    apply h d (List.mem_cons_of_mem c hd)

theorem tokens_skipSpace (text : List Char) :
  tokens (skipSpace text) = tokens text
  := by
  obtain ⟨space, hspace, htext⟩ := exists_space text
  conv_rhs => rw [htext, tokens_space hspace]

theorem tokens_mark (h : c ∈ ['{', '}', '[', ']', ':', ',']) :
  tokens (c :: rest) = .mark c :: tokens rest
  := by
  have hother : isSpace c = false ∧ c ≠ '"' ∧ isScalarChar c = false := by
    simp only [List.mem_cons, List.not_mem_nil, or_false] at h
    rcases h with rfl | rfl | rfl | rfl | rfl | rfl <;> decide
  obtain ⟨hspace, hquote, hscalar⟩ := hother
  rw [tokens, if_neg (by simp [hspace]), if_neg hquote, if_neg (by simp [hscalar])]

theorem stringSpan_content (h : IsContent body) :
  stringSpan (body ++ '"' :: rest) = (body, rest)
  := by
  induction h with
  | nil => rfl
  | plain hquote hslash _ ih =>
    rw [List.cons_append, stringSpan]
    · rw [ih]
    · apply hquote
    · intro _ _ hc
      apply (hslash hc).elim
  | escape _ ih => rw [List.cons_append, List.cons_append, stringSpan, ih]

theorem tokens_string (h : IsContent body) :
  tokens ('"' :: (body ++ '"' :: rest)) = .string body :: tokens rest
  := by
  rw [tokens, if_neg (by decide), if_pos rfl, stringSpan_content h]

theorem tokens_word (h : IsScalar word) (hstop : Stops rest) :
  tokens (word ++ rest) = .word word :: tokens rest
  := by
  obtain ⟨hne, hall⟩ := h
  cases word with
  | nil => apply (hne rfl).elim
  | cons c word =>
    have hc : isScalarChar c = true := hall c (List.mem_cons_self ..)
    have hword : ∀ d ∈ word, isScalarChar d = true := by
      intro d hd
      apply hall d (List.mem_cons_of_mem c hd)
    have hspace : isSpace c ≠ true := by
      intro hspace
      simp [isScalarChar_of_isBlank (isBlank_of_isSpace hspace)] at hc
    have hquote : c ≠ '"' := by
      rintro rfl
      simp [isScalarChar] at hc
    obtain ⟨htake, hdrop⟩ := takeWhile_lacks hword hstop
    rw [List.cons_append, tokens, if_neg hspace, if_neg hquote, if_pos hc, htake, hdrop]

end LumpRules.Json
