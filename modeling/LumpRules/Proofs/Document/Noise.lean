import LumpRules.Document
import LumpRules.Proofs.Document.Commas
import LumpRules.Proofs.Document.Comments

/-!
# Documents with noise

A noisy form of a row of tokens has a comma before some of its closing brackets, noise anywhere
around its tokens, and perhaps a byte-order mark before it all.  Reading a document takes all
this away but for space: `read_noisyForm` says that what is left shows the row again.
-/

namespace LumpRules.Document

open Text Json

variable {row row' : List Token} {token : Token} {used noise rest : List Char}

/-- A row with a comma put before some of its closing brackets. -/
inductive WithCommas : List Token → List Token → Prop where
  | nil : WithCommas [] []
  | token {token : Token} {row row' : List Token} :
      WithCommas row row' → WithCommas (token :: row) (token :: row')
  | comma {token : Token} {row row' : List Token} :
      token.isCloser = true → WithCommas row row' →
      WithCommas (token :: row) (.comma :: token :: row')

/-- A text that shows a row with noise. -/
def IsNoisyForm (row : List Token) (text : List Char) : Prop :=
  ∃ mark row' used noise, (mark = [] ∨ mark = ['\ufeff']) ∧ WithCommas row row' ∧
    Spaced IsNoise row' used ∧ IsNoise noise ∧ text = mark ++ (used ++ noise)

/-! ### The commas -/

theorem WithCommas.head_isCloser (h : WithCommas row row')
    (hcloser : row'.head?.any Token.isCloser = true) :
  row.head?.any Token.isCloser = true
  := by
  cases h with
  | nil => apply hcloser
  | token => apply hcloser
  | comma => simp [Token.comma, Token.isCloser, isCloser] at hcloser

/-- The commas that were put in are those that are dropped. -/
theorem WithCommas.dropCommas_eq (h : WithCommas row row') (huntrailed : Untrailed row) :
  dropCommas row' = row
  := by
  induction h with
  | nil => rfl
  | @token token row row' h ih =>
    obtain ⟨hcomma, hrow⟩ := huntrailed
    rw [dropCommas, if_neg, ih hrow]
    rintro ⟨htoken, hcloser⟩
    apply hcomma ⟨htoken, h.head_isCloser hcloser⟩
  | @comma token row row' hcloser h ih =>
    rw [dropCommas_closer hcloser, ih huntrailed.2]

theorem WithCommas.proper (h : WithCommas row row') (hproper : ∀ token ∈ row, token.IsProper) :
  ∀ token ∈ row', token.IsProper
  := by
  induction h with
  | nil => apply hproper
  | @token token row row' h ih =>
    rw [List.forall_mem_cons] at hproper ⊢
    apply And.intro hproper.1 (ih hproper.2)
  | @comma token row row' hcloser h ih =>
    rw [List.forall_mem_cons] at hproper
    rw [List.forall_mem_cons, List.forall_mem_cons]
    refine ⟨?_, hproper.1, ih hproper.2⟩
    simp [Token.comma, Token.IsProper]

/-! ### The byte-order mark -/

/-- The text starts, if at all, with a character other than the byte-order mark. -/
def Unmarked (text : List Char) : Prop :=
  ∀ rest, text ≠ '\ufeff' :: rest

theorem unmarked_cons {c : Char} (hc : c ≠ '\ufeff') :
  Unmarked (c :: rest)
  := by
  intro rest heq
  apply hc (List.cons.inj heq).1

theorem IsNoise.unmarked (h : IsNoise noise) (hrest : Unmarked rest) :
  Unmarked (noise ++ rest)
  := by
  cases h with
  | nil => apply hrest
  | space hc _ =>
    apply unmarked_cons
    rintro rfl
    simp [isSpace] at hc
  | line => apply unmarked_cons (by decide)
  | block => apply unmarked_cons (by decide)

theorem unmarked_token (h : token.IsProper) :
  Unmarked (token.text ++ rest)
  := by
  cases token with
  | mark c =>
    apply unmarked_cons
    rintro rfl
    simp [Token.IsProper] at h
  | string body => apply unmarked_cons (by decide)
  | word word =>
    obtain ⟨hne, hall⟩ := h
    cases word with
    | nil => apply (hne rfl).elim
    | cons c word =>
      apply unmarked_cons
      rintro rfl
      have hscalar : isScalarChar '\ufeff' = true := hall _ (List.mem_cons_self ..)
      contradiction

theorem Spaced.unmarked (h : Spaced IsNoise row used) (hproper : ∀ token ∈ row, token.IsProper)
    (hnoise : IsNoise noise) :
  Unmarked (used ++ noise)
  := by
  cases h with
  | nil =>
    rw [List.nil_append, ← List.append_nil noise]
    apply hnoise.unmarked
    simp [Unmarked]
  | cons hspace _ =>
    rw [List.append_assoc, List.append_assoc]
    apply hspace.unmarked
    apply unmarked_token (hproper _ (List.mem_cons_self ..))

theorem toList_withoutMark {text : String} {mark body : List Char}
    (hmark : mark = [] ∨ mark = ['\ufeff']) (hbody : Unmarked body)
    (htext : text.toList = mark ++ body) :
  (withoutMark text).toList = body
  := by
  rcases hmark with rfl | rfl
  · rw [withoutMark]
    split
    · next rest hrest => apply (hbody rest (htext.symm.trans hrest)).elim
    · apply htext
  · rw [List.singleton_append] at htext
    rw [withoutMark, htext]
    simp

/-- What is left of a noisy form of a row shows the row with space between its tokens. -/
theorem read_noisyForm {text : String} (h : IsNoisyForm row text.toList)
    (hproper : ∀ token ∈ row, token.IsProper) (huntrailed : Untrailed row) :
  ∃ kept space, Spaced IsSpace row kept ∧ IsSpace space ∧ (read text).toList = kept ++ space
  := by
  obtain ⟨mark, row', used, noise, hmark, hcommas, hused, hnoise, htext⟩ := h
  have hproper' := hcommas.proper hproper
  have hbody := toList_withoutMark hmark (Spaced.unmarked hused hproper' hnoise) htext
  obtain ⟨spaced, hspaced, hstrip⟩ := stripComments_spaced hused hproper'
  obtain ⟨space, hspace, hstrip'⟩ := hnoise.stripComments
  obtain ⟨kept, hkept, hdrop⟩ := stripCommas_spaced hspaced hproper' hspace
  rw [hcommas.dropCommas_eq huntrailed] at hkept
  use kept, space, hkept, hspace
  have hcomments : stripComments .plain (used ++ noise) = spaced ++ space := by
    rw [hstrip, ← List.append_nil noise, hstrip', stripComments, List.append_nil]
  simp only [read, withoutTrailingCommas, withoutComments, String.toList_ofList, hbody,
    hcomments, hdrop]

end LumpRules.Document
