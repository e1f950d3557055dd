import LumpRules.Document.Comments
import LumpRules.Proofs.Json.Notation

/-!
# Taking out comments

What may stand between the tokens of a document is noise: space, and comments of both kinds.
`stripComments` turns a text with noise between its tokens into one with space between the same
tokens (`stripComments_spaced`).  No token can be taken for a comment, since a slash occurs in
strings only, and there the stripper stays inside the quotes up to the end of the string.
-/

namespace LumpRules.Document

open Text Json

variable {c : Char} {text rest content noise used : List Char} {token : Token} {row : List Token}

/-- Space and comments.  A line comment takes its line break with it, and a block comment ends
at the first star and slash after its start. -/
inductive IsNoise : List Char → Prop where
  | nil : IsNoise []
  | space {c : Char} {rest : List Char} :
      isSpace c = true → IsNoise rest → IsNoise (c :: rest)
  | line {content rest : List Char} :
      '\n' ∉ content → IsNoise rest → IsNoise ('/' :: '/' :: (content ++ '\n' :: rest))
  | block {content rest : List Char} :
      ¬ ['*', '/'] <:+: content → IsNoise rest →
      IsNoise ('/' :: '*' :: (content ++ '*' :: '/' :: rest))

/-! ### Steps of the stripper -/

theorem stripComments_line (h : '\n' ∉ content) :
  stripComments .line (content ++ '\n' :: rest) = '\n' :: stripComments .plain rest
  := by
  induction content with
  | nil => apply stripComments_newline
  | cons c content ih =>
    obtain ⟨hc, hcontent⟩ := not_or.mp (mt List.mem_cons.mpr h)
    rw [List.cons_append, stripComments, ih hcontent]
    apply Ne.symm hc

/-- Of a block comment nothing is left but its line breaks. -/
theorem stripComments_block (h : ¬ ['*', '/'] <:+: content) :
  stripComments .block (content ++ '*' :: '/' :: rest) =
    content.filter (· == '\n') ++ stripComments .plain rest
  := by
  induction content with
  | nil => rfl
  | cons c content ih =>
    have hcontent : ¬ ['*', '/'] <:+: content := by
      intro hends
      apply h (hends.trans (List.suffix_cons c content).isInfix)
    by_cases hline : c = '\n'
    · rw [hline, List.cons_append, stripComments_newline]
      simp only [CommentState.nextLine, ih hcontent]
      simp
    · rw [List.cons_append, stripComments, ih hcontent]
      · simp [hline]
      · apply hline
      · -- The comment does not end here, neither within the content nor across its end.
        rintro tail rfl htail
        cases content with
        | nil => simp at htail
        | cons d content =>
          obtain ⟨rfl, -⟩ := List.cons.inj htail
          apply h (List.prefix_append ['*', '/'] content).isInfix

/-- A string is kept as it stands. -/
theorem stripComments_quoted (h : IsContent content) (hline : '\n' ∉ content) :
  stripComments .quoted (content ++ '"' :: rest) = content ++ '"' :: stripComments .plain rest
  := by
  induction h with
  | nil => rfl
  | @plain c content hquote hslash _ ih =>
    obtain ⟨hc, hcontent⟩ := not_or.mp (mt List.mem_cons.mpr hline)
    rw [List.cons_append, stripComments, ih hcontent]
    · rfl
    · apply Ne.symm hc
    · apply hslash
    · apply hquote
  | @escape c content _ ih =>
    simp only [List.mem_cons, not_or] at hline
    obtain ⟨-, hc, hcontent⟩ := hline
    rw [List.cons_append, List.cons_append, stripComments, stripComments, ih hcontent]
    · rfl
    · apply Ne.symm hc

/-! ### Tokens and noise -/

/-- A token is kept as it stands. -/
theorem stripComments_token (h : token.IsProper) :
  stripComments .plain (token.text ++ rest) = token.text ++ stripComments .plain rest
  := by
  cases token with
  | mark c =>
    have hmark : c ≠ '\\' ∧ c ≠ '"' ∧ c ≠ '/' := by
      simp only [Token.IsProper, List.mem_cons, List.not_mem_nil, or_false] at h
      rcases h with rfl | rfl | rfl | rfl | rfl | rfl <;> decide
    obtain ⟨hslash, hquote, hcomment⟩ := hmark
    apply stripComments_plain hslash hquote hcomment
  | string body =>
    obtain ⟨hcontent, hline⟩ := h
    simp only [Token.text, List.cons_append, List.append_assoc, List.nil_append]
    rw [stripComments, stripComments_quoted hcontent hline]
  | word word =>
    apply append_of_passes
    intro c hc rest
    have hscalar : isScalarChar c = true := h.2 c hc
    apply stripComments_plain
    all_goals
      rintro rfl
      simp [isScalarChar] at hscalar

/-- Noise leaves space. -/
theorem IsNoise.stripComments (h : IsNoise noise) :
  ∃ space, IsSpace space ∧
    ∀ rest, stripComments .plain (noise ++ rest) = space ++ Document.stripComments .plain rest
  := by
  induction h with
  | nil =>
    use []
    simp [IsSpace]
  | @space c noise hc _ ih =>
    obtain ⟨space, hspace, hstrip⟩ := ih
    use c :: space
    constructor
    · intro d hd
      rcases List.mem_cons.mp hd with rfl | hd
      · apply hc
      · apply hspace d hd
    · intro rest
      rw [List.cons_append, stripComments_plain, hstrip]
      · rfl
      all_goals
        rintro rfl
        simp [isSpace] at hc
  | @line content noise hcontent _ ih =>
    obtain ⟨space, hspace, hstrip⟩ := ih
    use '\n' :: space
    constructor
    · intro d hd
      rcases List.mem_cons.mp hd with rfl | hd
      · decide
      · apply hspace d hd
    · intro rest
      simp only [List.cons_append, List.append_assoc]
      rw [Document.stripComments, stripComments_line hcontent, hstrip]
  | @block content noise hcontent _ ih =>
    obtain ⟨space, hspace, hstrip⟩ := ih
    use content.filter (· == '\n') ++ space
    constructor
    · intro d hd
      rcases List.mem_append.mp hd with hd | hd
      · obtain rfl := beq_iff_eq.mp (List.mem_filter.mp hd).2
        decide
      · apply hspace d hd
    · intro rest
      simp only [List.cons_append, List.append_assoc]
      rw [Document.stripComments, stripComments_block hcontent, hstrip]

/-- A text with noise between its tokens becomes one with space between them. -/
theorem stripComments_spaced (h : Spaced IsNoise row used)
    (hproper : ∀ token ∈ row, token.IsProper) :
  ∃ kept, Spaced IsSpace row kept ∧
    ∀ rest, stripComments .plain (used ++ rest) = kept ++ stripComments .plain rest
  := by
  induction h with
  | nil =>
    use [], .nil
    simp
  | @cons token row noise used hnoise _ ih =>
    obtain ⟨space, hspace, hstrip⟩ := hnoise.stripComments
    obtain ⟨kept, hkept, hrest⟩ := ih fun token htoken =>
      hproper token (List.mem_cons_of_mem _ htoken)
    use space ++ (token.text ++ kept), .cons hspace hkept
    intro rest
    simp only [List.append_assoc]
    rw [hstrip, stripComments_token (hproper token (List.mem_cons_self ..)), hrest]

end LumpRules.Document
