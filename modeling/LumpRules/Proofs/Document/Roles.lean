import LumpRules.Proofs.Document.Pieces

/-!
# What the characters of a text belong to

`annotate` gives each character of a text the state in which the reader of comments takes it, where
the marks at both ends of a comment belong to the comment.  The reader leaves the characters outside
comments and the line breaks (`stripComments_eq_filter`).

When what it leaves is read again, every character is taken in the state in which it was taken first
(`annotate_stripComments`), but for the line breaks of comments, which stand between strings then.
So there is no comment in it, the quotes that open and close strings are the same, and nothing more
is taken out (`withoutComments_idempotent`).
-/

namespace LumpRules.Document

namespace CommentState

/-- Whether a state is one within a comment. -/
def isComment : CommentState → Bool
  | .line => true
  | .block => true
  | _ => false

/-- The state that is left of a state when there are no comments. -/
def settled : CommentState → CommentState
  | .line => .plain
  | .block => .plain
  | state => state

theorem isComment_settled (state : CommentState) :
  state.settled.isComment = false
  := by
  cases state <;> rfl

theorem settled_nextLine (state : CommentState) :
  state.nextLine.settled = .plain
  := by
  cases state <;> rfl

theorem nextLine_settled (state : CommentState) :
  state.settled.nextLine = .plain
  := by
  cases state <;> rfl

end CommentState

/-- The characters of the text after the given state, each with the state in which it is taken. -/
def annotate : CommentState → List Char → List (Char × CommentState)
  | _, [] => []
  | state, '\n' :: rest => ('\n', state) :: annotate state.nextLine rest
  | .line, c :: rest => (c, .line) :: annotate .line rest
  | .block, '*' :: '/' :: rest => ('*', .block) :: ('/', .block) :: annotate .plain rest
  | .block, c :: rest => (c, .block) :: annotate .block rest
  | .shielded, c :: rest => (c, .shielded) :: annotate .plain rest
  | .quotedShielded, c :: rest => (c, .quotedShielded) :: annotate .quoted rest
  | .quoted, '\\' :: rest => ('\\', .quoted) :: annotate .quotedShielded rest
  | .quoted, '"' :: rest => ('"', .quoted) :: annotate .plain rest
  | .quoted, c :: rest => (c, .quoted) :: annotate .quoted rest
  | .plain, '\\' :: rest => ('\\', .plain) :: annotate .shielded rest
  | .plain, '"' :: rest => ('"', .plain) :: annotate .quoted rest
  | .plain, '/' :: '/' :: rest => ('/', .line) :: ('/', .line) :: annotate .line rest
  | .plain, '/' :: '*' :: rest => ('/', .block) :: ('*', .block) :: annotate .block rest
  | .plain, c :: rest => (c, .plain) :: annotate .plain rest

/-- Whether a character is left when comments are taken out: if it is outside them, or a line
break. -/
def remains (entry : Char × CommentState) : Bool :=
  entry.1 == '\n' || !entry.2.isComment

/-- A character as it is taken when there are no comments. -/
def settle (entry : Char × CommentState) : Char × CommentState :=
  (entry.1, entry.2.settled)

variable {c : Char} {rest : List Char}

theorem annotate_newline (state : CommentState) :
  annotate state ('\n' :: rest) = ('\n', state) :: annotate state.nextLine rest
  := by
  cases state <;> rfl

theorem map_fst_annotate (state : CommentState) (text : List Char) :
  (annotate state text).map Prod.fst = text
  := by
  fun_induction annotate state text <;> simp_all

/-- What is left when comments are taken out. -/
theorem stripComments_eq_filter (state : CommentState) (text : List Char) :
  stripComments state text = ((annotate state text).filter remains).map Prod.fst
  := by
  fun_induction annotate state text <;>
    simp_all [stripComments, stripComments_newline, remains, CommentState.isComment]

/-- Outside strings and comments, a character that starts neither is taken alone. -/
theorem annotate_plain (hslash : c ≠ '\\') (hquote : c ≠ '"')
    (hline : ∀ tail, c = '/' → rest ≠ '/' :: tail) (hblock : ∀ tail, c = '/' → rest ≠ '*' :: tail) :
  annotate .plain (c :: rest) = (c, .plain) :: annotate .plain rest
  := by
  by_cases hbreak : c = '\n'
  · rw [hbreak, annotate_newline]
    rfl
  · rw [annotate]
    · exact hbreak
    · exact hslash
    · exact hquote
    · exact hline
    · exact hblock

/-- Where a text does not start with a slash, what is left of it starts with no character with which
the text does not. -/
theorem stripComments_ne (hrest : ∀ tail, rest ≠ '/' :: tail) (hc : ∀ tail, rest ≠ c :: tail)
    (tail : List Char) :
  stripComments .plain rest ≠ c :: tail
  := by
  rw [(stripComments_eq_flatMap .plain rest).1 (by decide)]
  cases rest with
  | nil => simp [pieces]
  | cons d rest =>
    have hd : d ≠ '/' := by
      rintro rfl
      exact hrest rest rfl
    obtain ⟨left, hleft⟩ := exists_pieces hd rest
    rw [hleft, List.flatMap_cons]
    intro heq
    obtain ⟨rfl, -⟩ := List.cons.inj heq
    exact hc rest rfl

/-- Read again, what is left of a text is taken as it was. -/
theorem annotate_stripComments (state : CommentState) (text : List Char) :
  annotate state.settled (stripComments state text) =
    ((annotate state text).filter remains).map settle
  := by
  fun_induction annotate state text with
  | case2 state rest ih =>
    rw [CommentState.settled_nextLine] at ih
    simp [stripComments_newline, annotate_newline, CommentState.nextLine_settled, remains, settle,
      ih]
  | case15 c rest hbreak hslash hquote hline hblock ih =>
    -- a slash that starts no comment starts none in what is left, which goes on as the text does
    have hstrip : stripComments .plain (c :: rest) = c :: stripComments .plain rest := by
      rw [stripComments] <;> assumption
    have hrest : ∀ tail, c = '/' → stripComments .plain rest ≠ '/' :: tail :=
      fun tail hc => stripComments_ne (fun tail => hline tail hc) (fun tail => hline tail hc) tail
    have hrest' : ∀ tail, c = '/' → stripComments .plain rest ≠ '*' :: tail :=
      fun tail hc => stripComments_ne (fun tail => hline tail hc) (fun tail => hblock tail hc) tail
    rw [hstrip]
    simp only [CommentState.settled] at ih ⊢
    rw [annotate_plain hslash hquote hrest hrest', ih]
    simp [remains, settle, CommentState.isComment, CommentState.settled]
  | _ =>
    simp_all [stripComments, annotate, remains, settle, CommentState.settled,
      CommentState.isComment]

/-- Taking out comments a second time takes out nothing.  What is left of a text is read as before:
each character is taken in the state in which it was taken in the text, so that a quote opens a
string, closes one or stands in one as it did there; only the line breaks of comments are outside.
No character of it is part of a comment. -/
theorem withoutComments_idempotent (text : String) :
  withoutComments (withoutComments text) = withoutComments text ∧
  annotate .plain (withoutComments text).toList =
    ((annotate .plain text.toList).filter remains).map settle ∧
  ∀ entry ∈ annotate .plain (withoutComments text).toList, entry.2.isComment = false
  := by
  have hroles : annotate .plain (withoutComments text).toList =
      ((annotate .plain text.toList).filter remains).map settle := by
    rw [withoutComments, String.toList_ofList]
    exact annotate_stripComments .plain text.toList
  have houtside : ∀ entry ∈ annotate .plain (withoutComments text).toList,
      entry.2.isComment = false := by
    rw [hroles]
    intro entry hentry
    obtain ⟨taken, -, rfl⟩ := List.mem_map.mp hentry
    exact CommentState.isComment_settled taken.2
  refine ⟨?_, hroles, houtside⟩
  have hkept : (annotate .plain (withoutComments text).toList).filter remains =
      annotate .plain (withoutComments text).toList := by
    rw [List.filter_eq_self]
    intro entry hentry
    simp [remains, houtside entry hentry]
  rw [withoutComments, stripComments_eq_filter, hkept, map_fst_annotate, String.ofList_toList]

/-- A slash behind a backslash next to a comment, and slashes in a string. -/
theorem withoutComments_idempotent_slashes :
  withoutComments "\\//*\n*/\"//\"" = "\\/\n\"//\"" ∧
  withoutComments "\\/\n\"//\"" = "\\/\n\"//\"" ∧
  ('/', CommentState.quoted) ∈ annotate .plain "\\/\n\"//\"".toList ∧
  CommentState.quoted.isComment = false
  := by
  obtain ⟨hagain, -, houtside⟩ := withoutComments_idempotent "\\//*\n*/\"//\""
  have hstripped : withoutComments "\\//*\n*/\"//\"" = "\\/\n\"//\"" := by
    decide +kernel
  have hslash : ('/', CommentState.quoted) ∈ annotate .plain "\\/\n\"//\"".toList := by
    decide +kernel
  rw [hstripped] at hagain houtside
  exact ⟨hstripped, hagain, hslash, houtside _ hslash⟩

end LumpRules.Document
