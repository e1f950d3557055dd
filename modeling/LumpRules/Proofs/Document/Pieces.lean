import LumpRules.Proofs.Document.Comments

/-!
# A text in pieces

`pieces` takes a text apart as the reader of comments sees it: into characters that are kept,
characters that are dropped, and block comments.  A block comment that does not end is no such
piece; its line breaks are kept and its other characters are dropped.  What is left of the pieces is
the text without its comments (`stripComments_eq_flatMap`).  With a space in the place of every
block comment, `spacedComments`, the text without its comments has a space there too
(`stripComments_spaced_eq_flatMap`).
-/

namespace LumpRules.Document

/-- A part of a text as the reader of comments sees it. -/
inductive Piece where
  /-- A character that is kept. -/
  | kept (c : Char)
  /-- A character of a comment that ends with its line, or of a block comment without an end. -/
  | dropped (c : Char)
  /-- A block comment with the given content. -/
  | comment (content : List Char)

namespace Piece

/-- Whether the piece is a character that is kept. -/
def isKept : Piece → Bool
  | .kept _ => true
  | _ => false

/-- The text of a piece, or a space if it is a block comment. -/
def spaced : Piece → List Char
  | .kept c => [c]
  | .dropped c => [c]
  | .comment _ => [' ']

/-- What is left of a piece when comments are taken out. -/
def remains : Piece → List Char
  | .kept c => [c]
  | .dropped _ => []
  | .comment content => content.filter (· == '\n')

/-- What would be left of a piece if every block comment were a space. -/
def separates : Piece → List Char
  | .kept c => [c]
  | .dropped _ => []
  | .comment _ => [' ']

/-- A character of a block comment without an end. -/
def unended (c : Char) : Piece :=
  if c == '\n' then .kept c else .dropped c

end Piece

/-- The content of a block comment, from after its opening; nothing if it does not end. -/
def blockContent? : List Char → Option (List Char)
  | [] => none
  | '*' :: '/' :: _ => some []
  | c :: rest => (blockContent? rest).map (c :: ·)

/-- The pieces of the text after the given state.  The rest of a block comment is passed over: the
piece comes where the comment starts. -/
def pieces : CommentState → List Char → List Piece
  | _, [] => []
  | .block, '*' :: '/' :: rest => pieces .plain rest
  | .block, _ :: rest => pieces .block rest
  | state, '\n' :: rest => .kept '\n' :: pieces state.nextLine rest
  | .line, c :: rest => .dropped c :: pieces .line rest
  | .shielded, c :: rest => .kept c :: pieces .plain rest
  | .quotedShielded, c :: rest => .kept c :: pieces .quoted rest
  | .quoted, '\\' :: rest => .kept '\\' :: pieces .quotedShielded rest
  | .quoted, '"' :: rest => .kept '"' :: pieces .plain rest
  | .quoted, c :: rest => .kept c :: pieces .quoted rest
  | .plain, '\\' :: rest => .kept '\\' :: pieces .shielded rest
  | .plain, '"' :: rest => .kept '"' :: pieces .quoted rest
  | .plain, '/' :: '/' :: rest => .dropped '/' :: .dropped '/' :: pieces .line rest
  | .plain, '/' :: '*' :: rest =>
    match blockContent? rest with
    | some content => .comment content :: pieces .block rest
    | none => .dropped '/' :: .dropped '*' :: rest.map .unended
  | .plain, c :: rest => .kept c :: pieces .plain rest

/-- A text with a space in the place of every block comment that ends. -/
def spacedComments (text : String) : String :=
  String.ofList ((pieces .plain text.toList).flatMap Piece.spaced)

/-! ### What is left of the pieces -/

variable {c : Char} {text rest content : List Char} {state : CommentState}

theorem nextLine_eq_plain (h : state ≠ .block) :
  state.nextLine = .plain
  := by
  cases state <;> first
  | rfl
  | contradiction

/-- Within a block comment a line break is kept and any other character dropped. -/
theorem stripComments_block_cons (h : ∀ tail, c = '*' → rest ≠ '/' :: tail) :
  stripComments .block (c :: rest) = [c].filter (· == '\n') ++ stripComments .block rest
  := by
  by_cases hline : c = '\n'
  · rw [hline, stripComments_newline]
    rfl
  · rw [stripComments]
    · simp [hline]
    · apply hline
    · apply h

theorem stripComments_unended (h : blockContent? text = none) :
  stripComments .block text = (text.map Piece.unended).flatMap Piece.remains
  := by
  fun_induction blockContent? text with
  | case1 => rfl
  | case2 => contradiction
  | case3 c rest hopen ih =>
    have hc : (Piece.unended c).remains = [c].filter (· == '\n') := by
      rw [Piece.unended]
      split <;> simp_all [Piece.remains]
    rw [stripComments_block_cons hopen, ih (Option.map_eq_none_iff.mp h), List.map_cons,
      List.flatMap_cons, hc]

/-- What is left of the pieces is the text without its comments. -/
theorem stripComments_eq_flatMap (state : CommentState) (text : List Char) :
  (state ≠ .block → stripComments state text = (pieces state text).flatMap Piece.remains) ∧
    (state = .block → ∀ content, blockContent? text = some content →
      stripComments state text =
        content.filter (· == '\n') ++ (pieces state text).flatMap Piece.remains)
  := by
  fun_induction pieces state text with
  | case3 c rest hopen ih =>
    refine ⟨fun hblock => (hblock rfl).elim, ?_⟩
    intro _ content hcontent
    rw [blockContent?] at hcontent
    · obtain ⟨tail, htail, rfl⟩ := Option.map_eq_some_iff.mp hcontent
      rw [stripComments_block_cons hopen, ih.2 rfl tail htail, ← List.append_assoc,
        ← List.filter_append, List.singleton_append]
    · apply hopen
  | case4 state rest hblock ih =>
    rw [nextLine_eq_plain hblock] at ih ⊢
    rw [stripComments_newline, nextLine_eq_plain hblock]
    simp_all [Piece.remains]
  | _ => simp_all [Piece.remains, blockContent?, stripComments, stripComments_unended]

/-! ### Block comments as spaces -/

/-- The state after which the pieces of a text come, if block comments are passed over. -/
def CommentState.outer : CommentState → CommentState
  | .block => .plain
  | state => state

/-- A slash that starts no comment. -/
theorem stripComments_slash (hline : ∀ tail, rest ≠ '/' :: tail)
    (hblock : ∀ tail, rest ≠ '*' :: tail) :
  stripComments .plain ('/' :: rest) = '/' :: stripComments .plain rest
  := by
  rw [stripComments]
  · decide
  · decide
  · decide
  · intro tail _ htail
    apply hline tail htail
  · intro tail _ htail
    apply hblock tail htail

/-- A character other than a slash starts no comment. -/
theorem exists_pieces (hc : c ≠ '/') (rest : List Char) :
  ∃ left, pieces .plain (c :: rest) = .kept c :: left
  := by
  unfold pieces
  split <;> simp_all

/-- Where a text does not start with a slash, its pieces with spaces for block comments start with
no character with which the text does not. -/
theorem flatMap_spaced_ne (h : ∀ tail, rest ≠ '/' :: tail) (hc : ∀ tail, rest ≠ c :: tail)
    (tail : List Char) :
  (pieces .plain rest).flatMap Piece.spaced ≠ c :: tail
  := by
  cases rest with
  | nil => simp [pieces]
  | cons d rest =>
    have hd : d ≠ '/' := by
      rintro rfl
      apply h rest rfl
    obtain ⟨left, hleft⟩ := exists_pieces hd rest
    rw [hleft, List.flatMap_cons]
    intro heq
    obtain ⟨rfl, -⟩ := List.cons.inj heq
    apply hc rest rfl

/-- A block comment without an end has no space in its place. -/
theorem flatMap_spaced_unended (text : List Char) :
  (text.map Piece.unended).flatMap Piece.spaced = text
  := by
  induction text with
  | nil => rfl
  | cons c text ih =>
    have hc : (Piece.unended c).spaced = [c] := by
      rw [Piece.unended]
      split <;> rfl
    rw [List.map_cons, List.flatMap_cons, ih, hc]
    rfl

theorem stripComments_spaced_unended (h : blockContent? text = none) :
  stripComments .block ((text.map Piece.unended).flatMap Piece.spaced) =
    (text.map Piece.unended).flatMap Piece.separates
  := by
  rw [flatMap_spaced_unended, stripComments_unended h, List.flatMap_map, List.flatMap_map]
  congr 1
  funext c
  rw [Piece.unended]
  split <;> rfl

/-- With a space in the place of every block comment, the text without its comments has a space
there too. -/
theorem stripComments_spaced_eq_flatMap (state : CommentState) (text : List Char) :
  stripComments state.outer ((pieces state text).flatMap Piece.spaced) =
    (pieces state text).flatMap Piece.separates
  := by
  fun_induction pieces state text with
  | case4 state rest hblock ih =>
    have houter : state.outer = state := by
      cases state <;> first
      | rfl
      | contradiction
    rw [nextLine_eq_plain hblock] at ih ⊢
    simp_all [Piece.separates, Piece.spaced, stripComments_newline, nextLine_eq_plain,
      CommentState.outer]
  | case14 rest content hcontent ih =>
    have hspace : ∀ rest, stripComments .plain (' ' :: rest) = ' ' :: stripComments .plain rest :=
      fun rest => stripComments_plain (by decide) (by decide) (by decide)
    simp_all [Piece.separates, Piece.spaced, CommentState.outer]
  | case15 rest hcontent =>
    have hstrip := stripComments_spaced_unended hcontent
    simp_all [Piece.separates, Piece.spaced, CommentState.outer, stripComments]
  | case16 c rest hline hslash hquote hcomment hblock ih =>
    rw [List.flatMap_cons, List.flatMap_cons, ← ih]
    by_cases hc : c = '/'
    · subst hc
      have hcomment' : ∀ tail, rest ≠ '/' :: tail := fun tail => hcomment tail rfl
      have hblock' : ∀ tail, rest ≠ '*' :: tail := fun tail => hblock tail rfl
      apply stripComments_slash (flatMap_spaced_ne hcomment' hcomment')
        (flatMap_spaced_ne hcomment' hblock')
    · apply stripComments_plain hslash hquote hc
  | _ => simp_all [Piece.separates, Piece.spaced, stripComments, CommentState.outer]

/-! ### Backslashes -/

/-- Pieces in which no comment comes between a backslash and the character that it shields. -/
inductive Regular : List Piece → Prop where
  | nil : Regular []
  | last : Regular [.kept '\\']
  | escape {c : Char} {rest : List Piece} :
      Regular rest → Regular (.kept '\\' :: .kept c :: rest)
  | kept {c : Char} {rest : List Piece} : c ≠ '\\' → Regular rest → Regular (.kept c :: rest)
  | other {piece : Piece} {rest : List Piece} :
      piece.isKept = false → Regular rest → Regular (piece :: rest)

/-- Whether the next character is shielded by a backslash. -/
def CommentState.isShielded (state : CommentState) : Bool :=
  state == .shielded || state == .quotedShielded

theorem regular_unended (text : List Char) :
  Regular (text.map Piece.unended)
  := by
  induction text with
  | nil => apply Regular.nil
  | cons c text ih =>
    rw [List.map_cons, Piece.unended]
    split
    · next hline =>
      apply Regular.kept _ ih
      rintro rfl
      contradiction
    · apply Regular.other rfl ih

theorem regular_pieces_state (state : CommentState) (text : List Char) :
  if state.isShielded then Regular (.kept '\\' :: pieces state text)
  else Regular (pieces state text)
  := by
  fun_induction pieces state text with
  | case1 state =>
    split
    · apply Regular.last
    · apply Regular.nil
  | case4 state rest hblock ih =>
    rw [nextLine_eq_plain hblock] at ih ⊢
    split
    · apply Regular.escape ih
    · apply Regular.kept (by decide) ih
  | case5 c rest _ ih => apply Regular.other rfl ih
  | case6 c rest _ ih => apply Regular.escape ih
  | case7 c rest _ ih => apply Regular.escape ih
  | case8 rest ih => apply ih
  | case9 rest ih => apply Regular.kept (by decide) ih
  | case11 rest ih => apply ih
  | case12 rest ih => apply Regular.kept (by decide) ih
  | case13 rest ih => apply Regular.other rfl (.other rfl ih)
  | case14 rest content _ ih => apply Regular.other rfl ih
  | case15 rest => apply Regular.other rfl (.other rfl (regular_unended rest))
  | case2 rest ih => apply ih
  | case3 c rest _ ih => apply ih
  | case10 c rest _ hslash _ ih => apply Regular.kept hslash ih
  | case16 c rest _ hslash _ _ _ ih => apply Regular.kept hslash ih

theorem regular_pieces (text : List Char) :
  Regular (pieces .plain text)
  := regular_pieces_state .plain text

end LumpRules.Document
