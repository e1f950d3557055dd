/-!
# Comments

Rule documents may hold line comments, from two slashes to the end of the line, and block
comments, from a slash and a star to the next star and slash.  `withoutComments` takes them
out and keeps every line break outside the characters it drops, so that no text moves to
another line.  Quoted strings are recognised one line at a time, and a backslash shields
exactly one character, inside a string or outside.
-/

namespace LumpRules.Document

/-- Where the reader of comments stands. -/
inductive CommentState where
  /-- Between strings and comments. -/
  | plain
  /-- After a backslash outside a string. -/
  | shielded
  /-- Inside a string. -/
  | quoted
  /-- After a backslash inside a string. -/
  | quotedShielded
  /-- Inside a comment that ends with the line. -/
  | line
  /-- Inside a block comment. -/
  | block
  deriving DecidableEq, Repr

/-- The state at the start of a line: only a block comment reaches into the next line. -/
def CommentState.nextLine : CommentState → CommentState
  | .block => .block
  | _ => .plain

/-- The text that remains after the given state when comments are taken out. -/
def stripComments : CommentState → List Char → List Char
  | _, [] => []
  | state, '\n' :: rest => '\n' :: stripComments state.nextLine rest
  | .line, _ :: rest => stripComments .line rest
  | .block, '*' :: '/' :: rest => stripComments .plain rest
  | .block, _ :: rest => stripComments .block rest
  | .shielded, c :: rest => c :: stripComments .plain rest
  | .quotedShielded, c :: rest => c :: stripComments .quoted rest
  | .quoted, '\\' :: rest => '\\' :: stripComments .quotedShielded rest
  | .quoted, '"' :: rest => '"' :: stripComments .plain rest
  | .quoted, c :: rest => c :: stripComments .quoted rest
  | .plain, '\\' :: rest => '\\' :: stripComments .shielded rest
  | .plain, '"' :: rest => '"' :: stripComments .quoted rest
  | .plain, '/' :: '/' :: rest => stripComments .line rest
  | .plain, '/' :: '*' :: rest => stripComments .block rest
  | .plain, c :: rest => c :: stripComments .plain rest

variable {c : Char} {rest : List Char}

theorem stripComments_newline (state : CommentState) :
  stripComments state ('\n' :: rest) = '\n' :: stripComments state.nextLine rest
  := by
  cases state <;> rfl

/-- Outside strings and comments, only backslashes, quotes and slashes are special. -/
theorem stripComments_plain (hslash : c ≠ '\\') (hquote : c ≠ '"') (hcomment : c ≠ '/') :
  stripComments .plain (c :: rest) = c :: stripComments .plain rest
  := by
  by_cases hline : c = '\n'
  · rw [hline, stripComments_newline]
    rfl
  · rw [stripComments]
    · apply hline
    · apply hslash
    · apply hquote
    · intro _ hc
      apply (hcomment hc).elim
    · intro _ hc
      apply (hcomment hc).elim

/-- A document without its comments. -/
def withoutComments (text : String) : String :=
  String.ofList (stripComments .plain text.toList)

end LumpRules.Document
