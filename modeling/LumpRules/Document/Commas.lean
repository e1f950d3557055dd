import LumpRules.Text.Blank

/-!
# Trailing commas

A comma is trailing when only white space stands between it and a closing brace or bracket.
`withoutTrailingCommas` drops those commas that lie outside strings; here a string may run
over several lines.  A comma is held back, with the white space after it, until the next
character tells whether it is trailing.
-/

namespace LumpRules.Document

open Text

/-- Where the reader of commas stands. -/
inductive CommaState where
  /-- Outside strings, with no comma held back. -/
  | plain
  /-- After a comma and the given white space, latest character first. -/
  | held (blanks : List Char)
  /-- Inside a string. -/
  | quoted
  /-- After a backslash inside a string. -/
  | quotedShielded
  deriving DecidableEq, Repr

/-- Whether a character closes an object or an array. -/
def isCloser (c : Char) : Bool :=
  c == '}' || c == ']'

/-- The state after a character outside strings that releases the comma held back. -/
def CommaState.after (c : Char) : CommaState :=
  if c == '"' then .quoted else if c == ',' then .held [] else .plain

/-- What a character outside strings adds to the output: nothing yet, if it is a comma. -/
def released (c : Char) : List Char :=
  if c == ',' then [] else [c]

/-- The text that remains after the given state when trailing commas are dropped. -/
def stripCommas : CommaState → List Char → List Char
  | .held blanks, [] => ',' :: blanks.reverse
  | _, [] => []
  | .quoted, c :: rest =>
    c :: stripCommas
      (if c == '\\' then .quotedShielded else if c == '"' then .plain else .quoted) rest
  | .quotedShielded, c :: rest => c :: stripCommas .quoted rest
  | .plain, c :: rest => released c ++ stripCommas (.after c) rest
  | .held blanks, c :: rest =>
    if isBlank c then
      stripCommas (.held (c :: blanks)) rest
    else if isCloser c then
      blanks.reverse ++ c :: stripCommas .plain rest
    else
      ',' :: blanks.reverse ++ released c ++ stripCommas (.after c) rest

/-- Outside strings, only quotes and commas are special. -/
theorem stripCommas_plain {c : Char} {rest : List Char} (hquote : c ≠ '"')
    (hcomma : c ≠ ',') :
  stripCommas .plain (c :: rest) = c :: stripCommas .plain rest
  := by
  simp [stripCommas, released, CommaState.after, hquote, hcomma]

/-- A document without its trailing commas. -/
def withoutTrailingCommas (text : String) : String :=
  String.ofList (stripCommas .plain text.toList)

end LumpRules.Document
