import LumpRules.Proofs.Document.Noise

/-!
# Rewriting words in quotes

`Reworded` relates two texts of which the second is the first with other words in place of some of
its words in quotes.  Nothing is asked of what stands around such a word: it may stand in a comment,
or its first quote may close a string.  Since words are made of letters, digits and escapes only,
the readers of comments and commas pass from one quote to the other in the same way, whatever the
word, and what they make of the two texts is related again (`Reworded.read`).
-/

namespace LumpRules.Document

open Text Json

variable {c : Char} {word rest rest' text text' : List Char}

/-- Whether a character may stand in a word between quotes. -/
def isWordChar (c : Char) : Bool :=
  c.isAlphanum || c == '\\'

/-- What may stand between the quotes of a word: letters, digits and escapes that JSON accepts. -/
def IsWord (word : List Char) : Prop :=
  (∀ c ∈ word, isWordChar c = true) ∧ ∃ name, IsLiteral word name

theorem isPiece_of_isAlphanum (h : c.isAlphanum = true) :
  IsPiece [c] c
  := by
  have hscalar : isScalarChar c = true := by
    simp [isScalarChar, h]
  have hrange := toNat_of_isScalarChar hscalar
  apply isPiece_plain
  · omega
  · rintro rfl
    contradiction
  · rintro rfl
    contradiction

/-- Letters and digits make up a word. -/
theorem isWord_of_isAlphanum (h : word.all Char.isAlphanum = true) :
  IsWord word
  := by
  induction word with
  | nil => exact ⟨by simp, [], isLiteral_nil⟩
  | cons c word ih =>
    rw [List.all_cons, Bool.and_eq_true] at h
    obtain ⟨hc, hword⟩ := h
    obtain ⟨hchars, name, hname⟩ := ih hword
    constructor
    · apply List.forall_mem_cons.mpr ⟨_, hchars⟩
      simp [isWordChar, hc]
    · exact ⟨c :: name, (isPiece_of_isAlphanum hc).isLiteral hname⟩

/-- A text and the same text with other words in place of some of its words in quotes. -/
inductive Reworded : List Char → List Char → Prop where
  | nil : Reworded [] []
  | char (c : Char) {rest rest' : List Char} :
      Reworded rest rest' → Reworded (c :: rest) (c :: rest')
  | word {word word' rest rest' : List Char} :
      IsWord word → IsWord word' → Reworded rest rest' →
      Reworded ('"' :: (word ++ '"' :: rest)) ('"' :: (word' ++ '"' :: rest'))

namespace Reworded

theorem append {front front' : List Char} (hfront : Reworded front front')
    (h : Reworded text text') :
  Reworded (front ++ text) (front' ++ text')
  := by
  induction hfront with
  | nil => apply h
  | char c _ ih => apply Reworded.char c ih
  | word hword hword' _ ih =>
    simp only [List.cons_append, List.append_assoc]
    apply Reworded.word hword hword' ih

theorem refl (text : List Char) :
  Reworded text text
  := by
  induction text with
  | nil => apply Reworded.nil
  | cons c text ih => apply Reworded.char c ih

theorem append_left (h : Reworded text text') (front : List Char) :
  Reworded (front ++ text) (front ++ text')
  := (refl front).append h

/-- The first character stays the same. -/
theorem head?_eq (h : Reworded text text') :
  text.head? = text'.head?
  := by
  cases h <;> rfl

/-- A character other than a quote is kept. -/
theorem of_cons (h : Reworded (c :: rest) text') (hc : c ≠ '"') :
  ∃ rest', text' = c :: rest' ∧ Reworded rest rest'
  := by
  cases h with
  | char c h => exact ⟨_, rfl, h⟩
  | word => contradiction

end Reworded

/-! ### Comments -/

theorem ne_of_isWordChar {d : Char} (h : isWordChar c = true) (hd : isWordChar d = false) :
  c ≠ d
  := by
  rintro rfl
  simp [h] at hd

theorem IsWord.content (h : IsWord word) :
  IsContent word
  := by
  obtain ⟨-, name, hname⟩ := h
  apply hname.1

theorem IsWord.line (h : IsWord word) :
  '\n' ∉ word
  := by
  obtain ⟨-, name, hname⟩ := h
  apply hname.2.1

/-- Outside strings a word is kept as it stands, too. -/
theorem stripComments_plain_word (h : IsContent word) (hword : ∀ c ∈ word, isWordChar c = true) :
  stripComments .plain (word ++ rest) = word ++ stripComments .plain rest
  := by
  induction h with
  | nil => rfl
  | @plain c word hquote hslash _ ih =>
    rw [List.forall_mem_cons] at hword
    rw [List.cons_append, stripComments_plain hslash hquote, ih hword.2]
    · rfl
    · apply ne_of_isWordChar hword.1 (by decide)
  | @escape c word _ ih =>
    rw [List.forall_mem_cons, List.forall_mem_cons] at hword
    have hc : c ≠ '\n' := ne_of_isWordChar hword.2.1 (by decide)
    rw [List.cons_append, List.cons_append, stripComments, stripComments, ih hword.2.2]
    · rfl
    · apply hc

/-- In a comment a word is dropped. -/
theorem stripComments_dropped_word {state : CommentState}
    (hstate : state = .line ∨ state = .block) (hword : ∀ c ∈ word, isWordChar c = true) :
  stripComments state (word ++ rest) = stripComments state rest
  := by
  induction word with
  | nil => rfl
  | cons c word ih =>
    rw [List.forall_mem_cons] at hword
    have hline : c ≠ '\n' := ne_of_isWordChar hword.1 (by decide)
    have hstar : c ≠ '*' := ne_of_isWordChar hword.1 (by decide)
    rw [← ih hword.2, List.cons_append]
    rcases hstate with rfl | rfl
    · rw [stripComments]
      apply hline
    · rw [stripComments]
      · apply hline
      · intro _ hc
        apply (hstar hc).elim

/-- Between its quotes a word takes the reader of comments from one state to another, and shows or
is dropped as a whole. -/
theorem stripComments_word (state : CommentState) :
  ∃ (shown : Bool) (after : CommentState), ∀ word rest, IsWord word →
    stripComments state ('"' :: (word ++ '"' :: rest)) =
      (if shown then '"' :: (word ++ ['"']) else []) ++ stripComments after rest
  := by
  cases state with
  | plain =>
    use true, .plain
    intro word rest h
    rw [stripComments, stripComments_quoted h.content h.line]
    simp
  | shielded =>
    use true, .quoted
    intro word rest h
    rw [stripComments, stripComments_plain_word h.content h.1, stripComments]
    · simp
    · simp
  | quoted =>
    use true, .quoted
    intro word rest h
    rw [stripComments, stripComments_plain_word h.content h.1, stripComments]
    simp
  | quotedShielded =>
    use true, .plain
    intro word rest h
    rw [stripComments, stripComments_quoted h.content h.line]
    · simp
    · simp
  | line =>
    use false, .line
    intro word rest h
    rw [stripComments, stripComments_dropped_word (.inl rfl) h.1, stripComments]
    · rfl
    · simp
    · simp
  | block =>
    use false, .block
    intro word rest h
    rw [stripComments, stripComments_dropped_word (.inr rfl) h.1, stripComments]
    · rfl
    · simp
    · simp
    · simp
    · simp

/-- A step of the reader of comments: it shows some characters and goes on after the first one, or
after the next one if that is no quote. -/
def TakesStep (state : CommentState) (c : Char) (next : Option Char) : Prop :=
  ∃ (front : List Char) (after : CommentState) (both : Bool), (both = true → next ≠ some '"') ∧
    ∀ rest : List Char, rest.head? = next → stripComments state (c :: rest) =
      front ++ stripComments after (if both then rest.tail else rest)

variable {state after : CommentState} {next : Option Char}

theorem takesStep_one (front : List Char)
    (h : ∀ rest : List Char, rest.head? = next →
      stripComments state (c :: rest) = front ++ stripComments after rest) :
  TakesStep state c next
  := ⟨front, after, false, by simp, h⟩

theorem takesStep_two {d : Char} (hd : d ≠ '"')
    (h : ∀ rest, stripComments state (c :: d :: rest) = stripComments after rest) :
  TakesStep state c (some d)
  := by
  use [], after, true
  constructor
  · simpa using hd
  · intro rest hrest
    obtain ⟨tail, rfl⟩ := List.head?_eq_some_iff.mp hrest
    apply h

theorem takesStep_plain (hline : c ≠ '\n') :
  TakesStep .plain c next
  := by
  by_cases hslash : c = '\\'
  · subst hslash
    apply takesStep_one ['\\']
    intro rest _
    rfl
  by_cases hquote : c = '"'
  · subst hquote
    apply takesStep_one ['"']
    intro rest _
    rfl
  by_cases hcomment : c = '/' ∧ (next = some '/' ∨ next = some '*')
  · obtain ⟨rfl, rfl | rfl⟩ := hcomment
    · apply takesStep_two (by decide)
      intro rest
      rfl
    · apply takesStep_two (by decide)
      intro rest
      rfl
  · apply takesStep_one [c]
    intro rest hrest
    rw [stripComments]
    · rfl
    · apply hline
    · apply hslash
    · apply hquote
    · rintro tail rfl rfl
      apply hcomment ⟨rfl, .inl hrest.symm⟩
    · rintro tail rfl rfl
      apply hcomment ⟨rfl, .inr hrest.symm⟩

theorem takesStep_quoted (hline : c ≠ '\n') :
  TakesStep .quoted c next
  := by
  by_cases hslash : c = '\\'
  · subst hslash
    apply takesStep_one ['\\']
    intro rest _
    rfl
  by_cases hquote : c = '"'
  · subst hquote
    apply takesStep_one ['"']
    intro rest _
    rfl
  · apply takesStep_one [c]
    intro rest _
    rw [stripComments]
    · rfl
    · apply hline
    · apply hslash
    · apply hquote

theorem takesStep_block (hline : c ≠ '\n') :
  TakesStep .block c next
  := by
  by_cases hend : c = '*' ∧ next = some '/'
  · obtain ⟨rfl, rfl⟩ := hend
    apply takesStep_two (by decide)
    intro rest
    rfl
  · apply takesStep_one []
    intro rest hrest
    rw [stripComments]
    · rfl
    · apply hline
    · rintro tail rfl rfl
      apply hend ⟨rfl, hrest.symm⟩

/-- The reader of comments takes one or two characters at a time. -/
theorem takesStep (state : CommentState) (c : Char) (next : Option Char) :
  TakesStep state c next
  := by
  by_cases hline : c = '\n'
  · apply takesStep_one ['\n']
    intro rest _
    rw [hline, stripComments_newline]
    rfl
  cases state with
  | plain => apply takesStep_plain hline
  | quoted => apply takesStep_quoted hline
  | block => apply takesStep_block hline
  | line =>
    apply takesStep_one []
    intro rest _
    rw [stripComments]
    · rfl
    · apply hline
  | _ =>
    apply takesStep_one [c]
    intro rest _
    rw [stripComments]
    · rfl
    · apply hline

/-- What is left without comments is reworded. -/
theorem Reworded.stripComments (h : Reworded text text') (state : CommentState) :
  Reworded (stripComments state text) (Document.stripComments state text')
  := by
  -- A step may take two characters, so the texts without the first one are carried along.
  suffices hboth : (∀ state, Reworded (Document.stripComments state text)
        (Document.stripComments state text')) ∧
      (text.head? ≠ some '"' → ∀ state, Reworded (Document.stripComments state text.tail)
        (Document.stripComments state text'.tail)) from
    hboth.1 state
  clear state
  induction h with
  | nil =>
    constructor
    · intro state
      apply Reworded.refl
    · intro _ state
      apply Reworded.refl
  | @char c rest rest' h ih =>
    obtain ⟨hrest, htail⟩ := ih
    constructor
    · intro state
      obtain ⟨front, after, both, hboth, hstep⟩ := takesStep state c rest.head?
      rw [hstep rest rfl, hstep rest' h.head?_eq.symm]
      apply Reworded.append_left
      cases both with
      | true => apply htail (hboth rfl)
      | false => apply hrest
    · intro _ state
      apply hrest
  | @word word word' rest rest' hword hword' h ih =>
    constructor
    · intro state
      obtain ⟨shown, after, hstep⟩ := stripComments_word state
      rw [hstep word rest hword, hstep word' rest' hword']
      cases shown with
      | true => simpa using Reworded.word hword hword' (ih.1 after)
      | false => apply ih.1
    · simp

/-! ### Commas -/

theorem stripCommas_plain_word (hword : ∀ c ∈ word, isWordChar c = true) :
  stripCommas .plain (word ++ rest) = word ++ stripCommas .plain rest
  := by
  apply append_of_passes
  intro c hc rest
  have hchar := hword c hc
  apply stripCommas_plain
  · apply ne_of_isWordChar hchar (by decide)
  · apply ne_of_isWordChar hchar (by decide)

/-- A word and its quotes are kept in every state, after what they release. -/
theorem stripCommas_word (state : CommaState) :
  ∃ (front : List Char) (after : CommaState), ∀ word rest, IsWord word →
    stripCommas state ('"' :: (word ++ '"' :: rest)) =
      front ++ '"' :: (word ++ '"' :: stripCommas after rest)
  := by
  cases state with
  | plain =>
    use [], .plain
    intro word rest h
    simp [stripCommas, released, CommaState.after, stripCommas_quoted h.content]
  | held blanks =>
    use ',' :: blanks.reverse, .plain
    intro word rest h
    rw [stripCommas_release (by decide)]
    simp [stripCommas, released, CommaState.after, stripCommas_quoted h.content, isCloser]
  | quoted =>
    use [], .quoted
    intro word rest h
    simp [stripCommas, released, CommaState.after, stripCommas_plain_word h.1]
  | quotedShielded =>
    use [], .plain
    intro word rest h
    simp [stripCommas, stripCommas_quoted h.content]

theorem stripCommas_step (state : CommaState) (c : Char) :
  ∃ (front : List Char) (after : CommaState), ∀ rest,
    stripCommas state (c :: rest) = front ++ stripCommas after rest
  := by
  cases state with
  | plain => exact ⟨released c, .after c, fun rest => by rw [stripCommas]⟩
  | held blanks =>
    by_cases hblank : isBlank c = true
    · use [], .held (c :: blanks)
      intro rest
      simp [stripCommas, hblank]
    by_cases hcloser : isCloser c = true
    · use blanks.reverse ++ [c], .plain
      intro rest
      simp [stripCommas, hblank, hcloser]
    · use ',' :: blanks.reverse ++ released c, .after c
      intro rest
      simp [stripCommas, hblank, hcloser]
  | quoted => exact ⟨[c], _, fun rest => by rw [stripCommas]; rfl⟩
  | quotedShielded => exact ⟨[c], .quoted, fun rest => by rw [stripCommas]; rfl⟩

/-- What is left without trailing commas is reworded. -/
theorem Reworded.stripCommas (h : Reworded text text') (state : CommaState) :
  Reworded (stripCommas state text) (Document.stripCommas state text')
  := by
  induction h generalizing state with
  | nil => apply Reworded.refl
  | char c _ ih =>
    obtain ⟨front, after, hstep⟩ := stripCommas_step state c
    rw [hstep, hstep]
    apply (ih after).append_left
  | word hword hword' _ ih =>
    obtain ⟨front, after, hstep⟩ := stripCommas_word state
    rw [hstep _ _ hword, hstep _ _ hword']
    apply Reworded.append_left
    apply Reworded.word hword hword' (ih after)

/-! ### Documents -/

theorem Reworded.withoutMark {text text' : String} (h : Reworded text.toList text'.toList) :
  Reworded (withoutMark text).toList (Document.withoutMark text').toList
  := by
  by_cases hmark : ∃ rest, text.toList = '\ufeff' :: rest
  · obtain ⟨rest, hrest⟩ := hmark
    rw [hrest] at h
    obtain ⟨rest', hrest', h⟩ := h.of_cons (by decide)
    rw [Document.withoutMark, Document.withoutMark, hrest, hrest']
    simpa using h
  · have hmark' : ¬ ∃ rest, text'.toList = '\ufeff' :: rest := by
      rintro ⟨rest', hrest'⟩
      have hhead := h.head?_eq
      rw [hrest', List.head?_cons] at hhead
      obtain ⟨rest, hrest⟩ := List.head?_eq_some_iff.mp hhead
      apply hmark ⟨rest, hrest⟩
    have hkept {text : String} (hnone : ¬ ∃ rest, text.toList = '\ufeff' :: rest) :
        Document.withoutMark text = text := by
      rw [Document.withoutMark]
      split
      · next rest hrest => apply (hnone ⟨rest, hrest⟩).elim
      · rfl
    rw [hkept hmark, hkept hmark']
    apply h

/-- What is read of a reworded document is reworded. -/
theorem Reworded.read {text text' : String} (h : Reworded text.toList text'.toList) :
  Reworded (read text).toList (Document.read text').toList
  := by
  simp only [Document.read, withoutTrailingCommas, withoutComments, String.toList_ofList]
  apply Reworded.stripCommas
  apply Reworded.stripComments
  apply h.withoutMark

end LumpRules.Document
