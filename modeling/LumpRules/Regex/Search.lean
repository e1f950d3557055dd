import LumpRules.Regex.Expr

/-!
# Searching a text

A search moves marks through an expression.  A mark stands on a set of characters when some
match begun earlier has just read a character of that set; reading the next character moves all
marks at once.  Each character takes time in proportion to the size of the expression, however
many matches are under way.

`Net` is an expression whose repetitions are written out and whose sets carry marks.  `shift`
reads one character, `hasEnd` says whether a mark stands at an end of the net, and `allowsEmpty`
whether the net matches the empty text at a place.
-/

namespace LumpRules.Regex

/-- An expression with marks. -/
inductive Net where
  | empty
  | look (assertion : Assertion)
  | chars (marked : Bool) (set : CharSet)
  | seq (first second : Net)
  | alt (first second : Net)
  | star (body : Net)

namespace Net

/-- Copies of a net one after the other, halved until one is left, in at most the given number
of rounds. -/
def power (net : Net) : (rounds : Nat) → Nat → Net
  | 0, _ => .empty
  | rounds + 1, n =>
    if n = 0 then .empty
    else if n = 1 then net
    else .seq (net.power rounds (n / 2)) (net.power rounds (n - n / 2))

/-- The given number of copies of a net, one after the other. -/
def copies (net : Net) (n : Nat) : Net :=
  net.power (n + 1) n

/-- The net of an expression, without marks. -/
def ofExpr : Expr → Net
  | .empty => .empty
  | .look assertion => .look assertion
  | .chars set => .chars false set
  | .seq a b => .seq (ofExpr a) (ofExpr b)
  | .alt a b => .alt (ofExpr a) (ofExpr b)
  | .repeated body least none => .seq ((ofExpr body).copies least) (.star (ofExpr body))
  | .repeated body least (some most) =>
    .seq ((ofExpr body).copies least) ((Net.alt .empty (ofExpr body)).copies (most - least))
  | .capture body => ofExpr body

/-- Whether the net matches the empty text at a place. -/
def allowsEmpty (place : Place) : Net → Bool
  | .empty => true
  | .look assertion => assertion.holds place
  | .chars _ _ => false
  | .seq a b => a.allowsEmpty place && b.allowsEmpty place
  | .alt a b => a.allowsEmpty place || b.allowsEmpty place
  | .star _ => true

/-- Whether a mark stands at an end of the net, or can get there at a place without reading. -/
def hasEnd (place : Place) : Net → Bool
  | .empty => false
  | .look _ => false
  | .chars marked _ => marked
  | .seq a b => b.hasEnd place || (a.hasEnd place && b.allowsEmpty place)
  | .alt a b => a.hasEnd place || b.hasEnd place
  | .star body => body.hasEnd place

/-- The net after reading the character `c` at a place; with `enters`, a match may also begin
there. -/
def shift (place : Place) (c : Char) (enters : Bool) : Net → Net
  | .empty => .empty
  | .look assertion => .look assertion
  | .chars _ set => .chars (enters && set.contains c) set
  | .seq a b =>
    .seq (a.shift place c enters)
      (b.shift place c ((enters && a.allowsEmpty place) || a.hasEnd place))
  | .alt a b => .alt (a.shift place c enters) (b.shift place c enters)
  | .star body => .star (body.shift place c (enters || body.hasEnd place))

/-- Whether a match ends at a place or later in the text that follows. -/
def search (net : Net) (before : Option Char) : List Char → Bool
  | [] => net.hasEnd ⟨before, none⟩ || net.allowsEmpty ⟨before, none⟩
  | c :: rest =>
    let place := ⟨before, some c⟩
    net.hasEnd place || net.allowsEmpty place ||
      (net.shift place c true).search (some c) rest

end Net

/-- Whether an expression matches somewhere in a text. -/
def Expr.isMatch (expr : Expr) (text : List Char) : Bool :=
  (Net.ofExpr expr).search none text

end LumpRules.Regex
