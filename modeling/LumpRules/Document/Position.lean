/-!
# Line and column of a place in a text

A place is given by the text before it and the text after it.  In a text of a single line the
column counts bytes.  Otherwise it counts the characters of the line up to and including the
one at the place; but where that character takes several bytes, the bytes before it are
counted.  The end of the text is one column after its last character, on that character's line.
-/

namespace LumpRules.Document

/-- A line and a column, both counted from one. -/
structure Position where
  line : Nat
  column : Nat
  deriving DecidableEq, Repr

/-- The number of bytes that encode a text. -/
def byteCount (text : List Char) : Nat :=
  (String.ofList text).utf8ByteSize

/-- The part of a text after its last line break. -/
def lastLine (text : List Char) : List Char :=
  (text.reverse.takeWhile (· != '\n')).reverse

/-- The position of the place after `before` and before `after`. -/
def Position.between (before after : List Char) : Position :=
  if !(before.contains '\n' || after.contains '\n') then
    ⟨1, byteCount before + 1⟩
  else
    match after with
    | c :: _ =>
      let line := lastLine before
      ⟨before.count '\n' + 1, (if c.utf8Size = 1 then line.length else byteCount line) + 1⟩
    | [] =>
      let head := before.dropLast
      ⟨head.count '\n' + 1, (lastLine head).length + 2⟩

end LumpRules.Document
