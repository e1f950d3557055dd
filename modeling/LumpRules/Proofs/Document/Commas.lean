import LumpRules.Document.Commas
import LumpRules.Proofs.Json.Spacing

/-!
# Dropping trailing commas

`stripCommas_comma` says what becomes of a comma: it is dropped if the next character that is no
white space closes something.  On a text with space between its tokens the commas that are
dropped are those before a closing bracket (`stripCommas_spaced`), and a row that writes a value
has none of these.
-/

namespace LumpRules.Document

open Text Json

variable {c : Char} {text rest content gap used blanks : List Char} {token : Token}
  {row : List Token}

/-! ### Steps of the stripper -/

theorem stripCommas_gap (h : IsGap gap) :
  stripCommas .plain (gap ++ rest) = gap ++ stripCommas .plain rest
  := by
  apply append_of_passes
  intro c hc rest
  have hblank : isBlank c = true := h c hc
  apply stripCommas_plain
  all_goals
    rintro rfl
    simp [isBlank, blankRanges] at hblank

/-- The white space after a comma is held back with it. -/
theorem stripCommas_held (h : IsGap gap) :
  stripCommas (.held blanks) (gap ++ rest) = stripCommas (.held (gap.reverse ++ blanks)) rest
  := by
  induction gap generalizing blanks with
  | nil => rfl
  | cons c gap ih =>
    have hc : isBlank c = true := h c (List.mem_cons_self ..)
    rw [List.cons_append, stripCommas, if_pos hc, ih]
    · simp
    · intro d hd
      apply h d (List.mem_cons_of_mem c hd)

/-- The next character that is no white space tells what becomes of a comma held back. -/
theorem stripCommas_release (hc : isBlank c = false) :
  stripCommas (.held blanks) (c :: rest) =
    (if isCloser c then [] else [',']) ++ (blanks.reverse ++ stripCommas .plain (c :: rest))
  := by
  by_cases hcloser : isCloser c = true
  · rw [stripCommas_plain]
    · simp [stripCommas, hc, hcloser]
    all_goals
      rintro rfl
      simp [isCloser] at hcloser
  · simp [stripCommas, hc, hcloser]

theorem stripCommas_cons_comma (h : IsGap gap) :
  stripCommas .plain (',' :: (gap ++ rest)) = stripCommas (.held gap.reverse) rest
  := by
  rw [stripCommas, CommaState.after, if_neg (by decide), if_pos (by decide),
    stripCommas_held h, List.append_nil]
  rfl

/-- A comma is dropped if the next character that is no white space closes something. -/
theorem stripCommas_comma (h : IsGap gap) (hc : isBlank c = false) :
  stripCommas .plain (',' :: (gap ++ c :: rest)) =
    (if isCloser c then [] else [',']) ++ stripCommas .plain (gap ++ c :: rest)
  := by
  rw [stripCommas_cons_comma h, stripCommas_release hc, List.reverse_reverse, stripCommas_gap h]

/-- A comma is kept if only white space follows. -/
theorem stripCommas_comma_end (h : IsGap gap) :
  stripCommas .plain (',' :: gap) = ',' :: gap
  := by
  rw [← List.append_nil gap, stripCommas_cons_comma h, stripCommas, List.reverse_reverse,
    List.append_nil]

theorem stripCommas_quoted (h : IsContent content) :
  stripCommas .quoted (content ++ '"' :: rest) = content ++ '"' :: stripCommas .plain rest
  := by
  induction h with
  | nil => rfl
  | plain hquote hslash _ ih =>
    rw [List.cons_append, stripCommas]
    simp [hquote, hslash, ih]
  | escape _ ih =>
    rw [List.cons_append, List.cons_append, stripCommas]
    simp [stripCommas, ih]

/-! ### Rows of tokens -/

/-- A row without the commas before a closing bracket. -/
def dropCommas : List Token → List Token
  | [] => []
  | token :: row =>
    if token = .comma ∧ row.head?.any Token.isCloser then dropCommas row
    else token :: dropCommas row

theorem ne_comma_of_isCloser (h : token.isCloser = true) :
  token ≠ .comma
  := by
  rintro rfl
  simp [Token.comma, Token.isCloser, isCloser] at h

theorem dropCommas_cons (h : token ≠ .comma) :
  dropCommas (token :: row) = token :: dropCommas row
  := by
  rw [dropCommas, if_neg]
  rintro ⟨hcomma, -⟩
  apply h hcomma

/-- A comma before a bracket that closes something is dropped. -/
theorem dropCommas_closer (h : token.isCloser = true) :
  dropCommas (.comma :: token :: row) = token :: dropCommas row
  := by
  rw [dropCommas, if_pos (by simp [h]), dropCommas_cons (ne_comma_of_isCloser h)]

theorem dropCommas_comma (h : token.isCloser = false) :
  dropCommas (.comma :: token :: row) = .comma :: dropCommas (token :: row)
  := by
  rw [dropCommas, if_neg]
  simp [h]

/-- A token other than a comma is kept as it stands. -/
theorem stripCommas_token (h : token.IsProper) (hcomma : token ≠ .comma) :
  stripCommas .plain (token.text ++ rest) = token.text ++ stripCommas .plain rest
  := by
  cases token with
  | mark c =>
    apply stripCommas_plain
    · rintro rfl
      simp [Token.IsProper] at h
    · rintro rfl
      apply hcomma rfl
  | string body =>
    simp only [Token.text, List.cons_append, List.append_assoc, List.nil_append]
    rw [stripCommas]
    simp [CommaState.after, released, stripCommas_quoted h.1]
  | word word =>
    apply append_of_passes
    intro c hc rest
    have hscalar : isScalarChar c = true := h.2 c hc
    apply stripCommas_plain
    all_goals
      rintro rfl
      simp [isScalarChar] at hscalar

/-- On a text with space between its tokens, the commas before a closing bracket are dropped. -/
theorem stripCommas_spaced {space : List Char} (h : Spaced IsSpace row used)
    (hproper : ∀ token ∈ row, token.IsProper) (hspace : IsSpace space) :
  ∃ kept, Spaced IsSpace (dropCommas row) kept ∧
    stripCommas .plain (used ++ space) = kept ++ space
  := by
  induction h with
  | nil =>
    use [], .nil
    have hstrip : stripCommas .plain (space ++ []) = space ++ [] := stripCommas_gap hspace.isGap
    rw [List.append_nil] at hstrip
    apply hstrip
  | @cons token row before used hbefore hused ih =>
    have htoken : token.IsProper := hproper token (List.mem_cons_self ..)
    have hrow : ∀ token ∈ row, token.IsProper := by
      intro token htoken
      apply hproper token (List.mem_cons_of_mem _ htoken)
    obtain ⟨kept, hkept, hstrip⟩ := ih hrow
    simp only [List.append_assoc]
    rw [stripCommas_gap hbefore.isGap]
    by_cases hcomma : token = .comma
    · subst hcomma
      cases hused with
      | nil =>
        use before ++ [','], .cons hbefore .nil
        have hend : stripCommas .plain (',' :: space) = ',' :: space :=
          stripCommas_comma_end hspace.isGap
        simp [Token.comma, Token.text, hend]
      | @cons next row gap used hgap hused =>
        have hnext : next.IsProper := hrow next (List.mem_cons_self ..)
        obtain ⟨c, more, htext, hc⟩ := hnext.text
        simp only [htext, List.append_assoc, List.cons_append] at hstrip
        have hcomma : Token.comma.text = [','] := rfl
        simp only [hcomma, htext, List.append_assoc, List.cons_append, List.nil_append]
        rw [stripCommas_comma hgap.isGap hc, hstrip, ← hnext.isCloser_eq htext]
        cases hcloser : next.isCloser with
        | true =>
          rw [dropCommas_cons (ne_comma_of_isCloser hcloser)] at hkept
          rw [dropCommas_closer hcloser]
          use before ++ kept, hkept.prepend hbefore
          simp
        | false =>
          rw [dropCommas_comma hcloser]
          use before ++ (',' :: kept), .cons hbefore hkept
          simp
    · use before ++ (token.text ++ kept)
      constructor
      · rw [dropCommas_cons hcomma]
        apply Spaced.cons hbefore hkept
      · rw [stripCommas_token htoken hcomma, hstrip]
        simp

end LumpRules.Document
