import LumpRules.Text.Ascii
import LumpRules.Text.Lowercase

/-!
# Comparing an attribute text with a literal

`matchText` is equality of texts ignoring case, or, where wildcards are allowed and the
expected text ends in a star, the test that the actual text begins with what stands before the
star.  ASCII texts are compared letter by letter; as soon as either side leaves ASCII both are
compared in full lower case.
-/

namespace LumpRules.Text

/-- Whether two texts are equal ignoring case. -/
def sameText (a b : String) : Bool :=
  if isAscii a && isAscii b then
    sameName a b
  else
    lowercase a.toList == lowercase b.toList

/-- Whether a text begins with another, ignoring case. -/
def startsWithText (text start : String) : Bool :=
  if isAscii text && isAscii start then
    (start.toList.map Char.toLower).isPrefixOf (text.toList.map Char.toLower)
  else
    (lowercase start.toList).isPrefixOf (lowercase text.toList)

/-- What stands before the star that ends a text, if one does. -/
def beforeStar? (expected : String) : Option String :=
  match expected.toList.reverse with
  | '*' :: rest => some (String.ofList rest.reverse)
  | _ => none

/-- Whether an attribute text agrees with an expected one. -/
def matchText (actual expected : String) (allowWildcard : Bool) : Bool :=
  match if allowWildcard then beforeStar? expected else none with
  | some start => startsWithText actual start
  | none => sameText actual expected

end LumpRules.Text
