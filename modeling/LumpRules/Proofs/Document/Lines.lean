import LumpRules.Proofs.Document.Deferral
import LumpRules.Proofs.Document.Failure

/-!
# Lines

Reading a document takes characters out and never a line break (`KeepsLines`): neither the mark at
the start nor a trailing comma is one, and of a comment the line breaks are left.  So the document
that is scanned has the lines of the text, each without some of its characters, and the line of a
scan error is the line on which the scanner stopped in the text (`read_lines`).
-/

namespace LumpRules.Document

open Text

/-- What is left of a text from which characters other than line breaks were taken out. -/
inductive KeepsLines : List Char → List Char → Prop where
  | nil : KeepsLines [] []
  | keep (c : Char) {kept text : List Char} :
      KeepsLines kept text → KeepsLines (c :: kept) (c :: text)
  | drop {c : Char} {kept text : List Char} :
      c ≠ '\n' → KeepsLines kept text → KeepsLines kept (c :: text)

variable {c : Char} {kept kept' text left before rest : List Char} {raw : String}

/-! ### Lines of what is left -/

theorem splitOn_newline_cons (c : Char) (text : List Char) :
  (c :: text).splitOn '\n' =
    if c = '\n' then [] :: text.splitOn '\n' else (text.splitOn '\n').modifyHead (c :: ·)
  := by
  simp only [List.splitOn_eq_splitOnP, List.splitOnP_cons_eq_if_modifyHead, beq_iff_eq]

theorem forall₂_modifyHead {lines lines' : List (List Char)} {f g : List Char → List Char}
    (hfg : ∀ line line', line.Sublist line' → (f line).Sublist (g line'))
    (h : List.Forall₂ List.Sublist lines lines') :
  List.Forall₂ List.Sublist (lines.modifyHead f) (lines'.modifyHead g)
  := by
  cases h with
  | nil => exact .nil
  | cons hline hlines => exact .cons (hfg _ _ hline) hlines

namespace KeepsLines

theorem refl (text : List Char) :
  KeepsLines text text
  := by
  induction text with
  | nil => exact .nil
  | cons c text ih => exact ih.keep c

theorem trans (h : KeepsLines kept kept') (h' : KeepsLines kept' text) :
  KeepsLines kept text
  := by
  induction h' generalizing kept with
  | nil => exact h
  | drop hc _ ih => exact (ih h).drop hc
  | keep c _ ih =>
    cases h with
    | keep _ h => exact (ih h).keep c
    | drop hc h => exact (ih h).drop hc

theorem count_eq (h : KeepsLines kept text) :
  kept.count '\n' = text.count '\n'
  := by
  induction h with
  | nil => rfl
  | keep c _ ih => rw [List.count_cons, List.count_cons, ih]
  | drop hc _ ih => rw [List.count_cons_of_ne hc, ih]

/-- Each line is left without some of its characters. -/
theorem forall₂_lines (h : KeepsLines kept text) :
  List.Forall₂ List.Sublist (kept.splitOn '\n') (text.splitOn '\n')
  := by
  induction h with
  | nil => exact List.forall₂_same.mpr fun line _ => List.Sublist.refl line
  | keep c _ ih =>
    rw [splitOn_newline_cons, splitOn_newline_cons]
    split
    · exact .cons (List.Sublist.refl []) ih
    · exact forall₂_modifyHead (fun _ _ hline => hline.cons_cons c) ih
  | @drop c kept _ hc _ ih =>
    have hkept : (kept.splitOn '\n').modifyHead id = kept.splitOn '\n' := by
      rw [List.modifyHead_id, id_eq]
    rw [splitOn_newline_cons, if_neg hc, ← hkept]
    exact forall₂_modifyHead (fun _ _ hline => hline.cons c) ih

/-- A character that is left has its place in the text, with as many line breaks before it. -/
theorem exists_place (h : KeepsLines (kept ++ c :: left) text) :
  ∃ front back, text = front ++ c :: back ∧ KeepsLines kept front ∧ KeepsLines left back
  := by
  generalize hwhole : kept ++ c :: left = whole at h
  induction h generalizing kept with
  | nil => simp at hwhole
  | @drop d _ _ hd _ ih =>
    obtain ⟨front, back, rfl, hfront, hback⟩ := ih hwhole
    exact ⟨d :: front, back, rfl, hfront.drop hd, hback⟩
  | @keep d _ text hrest ih =>
    cases kept with
    | nil =>
      obtain ⟨rfl, rfl⟩ := List.cons.inj hwhole
      exact ⟨[], text, rfl, .nil, hrest⟩
    | cons e kept =>
      obtain ⟨rfl, htail⟩ := List.cons.inj hwhole
      obtain ⟨front, back, rfl, hfront, hback⟩ := ih htail
      exact ⟨e :: front, back, rfl, hfront.keep e, hback⟩

end KeepsLines

/-! ### The three passes -/

theorem keepsLines_withoutMark (raw : String) :
  KeepsLines (withoutMark raw).toList raw.toList
  := by
  rw [withoutMark]
  split
  · next rest hraw =>
    rw [hraw, String.toList_ofList]
    exact (KeepsLines.refl rest).drop (by decide)
  · exact KeepsLines.refl _

theorem keepsLines_stripComments (state : CommentState) (text : List Char) :
  KeepsLines (stripComments state text) text
  := by
  fun_induction stripComments state text with
  | case1 => exact .nil
  | case3 c rest hc ih => exact ih.drop hc
  | case4 rest ih => exact (ih.drop (by decide)).drop (by decide)
  | case5 c rest hc _ ih => exact ih.drop hc
  | case13 rest ih => exact (ih.drop (by decide)).drop (by decide)
  | case14 rest ih => exact (ih.drop (by decide)).drop (by decide)
  | _ => apply KeepsLines.keep; assumption

theorem keepsLines_stripCommas (state : QuoteState) (text : List Char) :
  KeepsLines (stripCommas state.commaState text) text
  := by
  induction text generalizing state with
  | nil => cases state <;> exact .nil
  | cons c rest ih =>
    rw [stripCommas_cons]
    split
    · next hcomma =>
      obtain ⟨-, rfl, -⟩ := hcomma
      exact (ih _).drop (by decide)
    · exact (ih _).keep c

theorem keepsLines_read (raw : String) :
  KeepsLines (read raw).toList raw.toList
  := by
  rw [read, withoutTrailingCommas, withoutComments, String.toList_ofList, String.toList_ofList]
  exact ((keepsLines_stripCommas .outside _).trans (keepsLines_stripComments .plain _)).trans
    (keepsLines_withoutMark raw)

/-! ### Lines of places -/

theorem line_between_cons (before : List Char) (c : Char) (rest : List Char) :
  (Position.between before (c :: rest)).line = before.count '\n' + 1
  := by
  rw [Position.between]
  split
  · next hline =>
    have hbefore : before.count '\n' = 0 := by
      rw [List.count_eq_zero]
      intro hmem
      simp [hmem] at hline
    rw [hbefore]
  · rfl

/-- The end of a text is on the line of its last character. -/
theorem line_between_nil (before : List Char) (c : Char) :
  (Position.between (before ++ [c]) []).line = before.count '\n' + 1
  := by
  rw [Position.between]
  split
  · next hline =>
    have hbefore : before.count '\n' = 0 := by
      rw [List.count_eq_zero]
      intro hmem
      simp [hmem] at hline
    rw [hbefore]
  · simp

/-- The scanner stops before a character of the text or, at the end, after the last one, and reports
the line of this character. -/
theorem scan_error_line {text : String} {problem : ParseError} (h : scan text = .error problem) :
  ∃ error before c after, scanDocument text.toList = .error error ∧
    text.toList = before ++ c :: after ∧
    (error.rest = c :: after ∨ error.rest = [] ∧ after = []) ∧
    problem.position.line = before.count '\n' + 1
  := by
  obtain ⟨error, before, hscan, htext, hproblem, -⟩ := scan_error_place h
  cases hrest : error.rest with
  | cons c after =>
    refine ⟨error, before, c, after, hscan, by rw [htext, hrest], .inl hrest, ?_⟩
    rw [hproblem, hrest, line_between_cons]
  | nil =>
    rw [hrest, List.append_nil] at htext
    cases before using List.reverseRecOn with
    | nil =>
      rw [htext] at hscan
      contradiction
    | append_singleton before c =>
      refine ⟨error, before, c, [], hscan, htext, .inr ⟨hrest, rfl⟩, ?_⟩
      rw [hproblem, hrest, line_between_nil]

/-- A document that is read has as many line breaks as the text, and each of its lines is the line
of the text without some characters.  If it is not accepted, the line of the error is the line on
which the character where the scanner stopped, or the last one that is left, stands in the text. -/
theorem read_lines (raw : String) :
  (read raw).toList.count '\n' = raw.toList.count '\n' ∧
  List.Forall₂ List.Sublist ((read raw).toList.splitOn '\n') (raw.toList.splitOn '\n') ∧
  ∀ problem, parse raw = .error problem → ∃ error before c after front back,
    scanDocument (read raw).toList = .error error ∧
    (read raw).toList = before ++ c :: after ∧
    (error.rest = c :: after ∨ error.rest = [] ∧ after = []) ∧
    raw.toList = front ++ c :: back ∧ KeepsLines before front ∧ KeepsLines after back ∧
    problem.position.line = front.count '\n' + 1
  := by
  have hkeeps := keepsLines_read raw
  refine ⟨hkeeps.count_eq, hkeeps.forall₂_lines, ?_⟩
  intro problem h
  obtain ⟨error, before, c, after, hscan, htext, hrest, hline⟩ := scan_error_line h
  rw [htext] at hkeeps
  obtain ⟨front, back, hraw, hfront, hback⟩ := hkeeps.exists_place
  refine ⟨error, before, c, after, front, back, hscan, htext, hrest, hraw, hfront, hback, ?_⟩
  rw [hline, hfront.count_eq]

/-- The line breaks of a comment count. -/
theorem read_lines_comment :
  parse "\x7b/*\n*/\"add\": ]\x7d" = .error ⟨[.value], ⟨2, 8⟩⟩ ∧
    ∃ front back, "\x7b/*\n*/\"add\": ]\x7d".toList = front ++ ']' :: back ∧
      front.count '\n' + 1 = 2
  := by
  have hparse : parse "\x7b/*\n*/\"add\": ]\x7d" = .error ⟨[.value], ⟨2, 8⟩⟩ := by
    decide +kernel
  have hscan : scanDocument (read "\x7b/*\n*/\"add\": ]\x7d").toList =
      .error ⟨[.value], [']', '}']⟩ := by
    decide +kernel
  obtain ⟨error, before, c, after, front, back, herror, -, hrest, htext, -, -, hline⟩ :=
    (read_lines "\x7b/*\n*/\"add\": ]\x7d").2.2 _ hparse
  obtain rfl : ⟨[.value], [']', '}']⟩ = error := Except.error.inj (hscan.symm.trans herror)
  rcases hrest with hrest | ⟨hnil, -⟩
  · obtain ⟨rfl, -⟩ := List.cons.inj hrest
    exact ⟨hparse, front, back, htext, hline.symm⟩
  · contradiction

end LumpRules.Document
