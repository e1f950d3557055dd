import LumpRules.Regex.Property

/-!
# Regular expressions

An expression describes where in a text a match may lie.  Besides characters it may look at the
place between two characters, which is all an `Assertion` does.
-/

namespace LumpRules.Regex

/-- A condition on a place in a text. -/
inductive Assertion where
  /-- The start of the text. -/
  | textStart
  /-- The end of the text. -/
  | textEnd
  /-- The start of a line; with `crlf`, a carriage return also ends a line. -/
  | lineStart (crlf : Bool)
  /-- The end of a line. -/
  | lineEnd (crlf : Bool)
  /-- A place between a word character and something else. -/
  | wordBoundary (ascii : Bool)
  /-- A place that is no boundary of a word. -/
  | noWordBoundary (ascii : Bool)
  /-- The start of a word. -/
  | wordStart (ascii : Bool)
  /-- The end of a word. -/
  | wordEnd (ascii : Bool)
  /-- No word character stands before. -/
  | wordStartHalf (ascii : Bool)
  /-- No word character stands after. -/
  | wordEndHalf (ascii : Bool)
  deriving DecidableEq, Repr

/-- The characters on the two sides of a place. -/
structure Place where
  before : Option Char
  after : Option Char
  deriving DecidableEq, Repr

/-- The word characters of ASCII. -/
def asciiWordChars : CharSet :=
  ⟨[⟨'0'.toNat, '9'.toNat⟩, ⟨'A'.toNat, 'Z'.toNat⟩, ⟨'_'.toNat, '_'.toNat⟩,
    ⟨'a'.toNat, 'z'.toNat⟩]⟩

/-- Whether there is a word character on one side of a place. -/
def isWordChar (ascii : Bool) (c : Option Char) : Bool :=
  c.any (if ascii then asciiWordChars else wordChars).contains

/-- Whether an assertion holds at a place. -/
def Assertion.holds (place : Place) : Assertion → Bool
  | .textStart => place.before.isNone
  | .textEnd => place.after.isNone
  | .lineStart false => place.before.all (· == '\n')
  | .lineEnd false => place.after.all (· == '\n')
  | .lineStart true =>
    place.before.all (· == '\n') || (place.before == some '\r' && place.after != some '\n')
  | .lineEnd true =>
    place.after.all (· == '\r') || (place.after == some '\n' && place.before != some '\r')
  | .wordBoundary ascii => isWordChar ascii place.before != isWordChar ascii place.after
  | .noWordBoundary ascii => isWordChar ascii place.before == isWordChar ascii place.after
  | .wordStart ascii => !isWordChar ascii place.before && isWordChar ascii place.after
  | .wordEnd ascii => isWordChar ascii place.before && !isWordChar ascii place.after
  | .wordStartHalf ascii => !isWordChar ascii place.before
  | .wordEndHalf ascii => !isWordChar ascii place.after

/-- A regular expression. -/
inductive Expr where
  | empty
  | look (assertion : Assertion)
  | chars (set : CharSet)
  | seq (first second : Expr)
  | alt (first second : Expr)
  /-- At least `least` and at most `most` copies, one after the other. -/
  | repeated (body : Expr) (least : Nat) (most : Option Nat)
  /-- A group whose match can be asked for. -/
  | capture (body : Expr)

end LumpRules.Regex
