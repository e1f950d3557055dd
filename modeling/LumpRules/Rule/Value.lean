import LumpRules.Text.Matching
import LumpRules.Decimal.Numeral
import LumpRules.Json.Writer
import LumpRules.Regex.Reader
import LumpRules.Regex.Search

/-!
# Rule values

A `RuleValue` is what a rule expects of a text on an entity: a literal, a regular expression, a
number or a truth value.  `RuleValue.accepts` compares it with a text.  A literal that is written
between slashes and is not empty there is a regular expression, which ignores case.  Whether its
source is accepted as one is for a `PatternReader` to decide, of which nothing more is known.
-/

namespace LumpRules

open Text

/-- What decides whether a source is accepted as a pattern, and reads it as an expression. -/
class PatternReader where
  read? : String → Option Regex.Expr

namespace PatternReader

/-- The reader that accepts all expressions, however large their automata are. -/
scoped instance unlimited : PatternReader where
  read? source := Regex.Expr.read? source.toList

end PatternReader

/-- A regular expression together with its source. -/
structure Pattern where
  source : String
  expr : Regex.Expr

/-- The pattern that a source writes, if it is accepted. -/
def Pattern.ofSource? [PatternReader] (source : String) : Option Pattern :=
  (PatternReader.read? source).map fun expr => ⟨source, expr⟩

/-- Whether a pattern matches somewhere in a text. -/
def Pattern.isMatch (pattern : Pattern) (text : String) : Bool :=
  pattern.expr.isMatch text.toList

/-- What a rule expects of a text. -/
inductive RuleValue where
  | literal (text : String)
  | pattern (pattern : Pattern)
  | number (x : Float)
  | integer (n : Int)
  | boolean (b : Bool)

/-- How far a number may be from the expected one. -/
def tolerance : Float := 0.001

/-- Whether two numbers are as good as equal. -/
def isNear (x y : Float) : Bool :=
  (x - y).abs ≤ tolerance

/-- What stands between the slashes of a text that is written as a pattern. -/
def patternSource? (text : String) : Option String :=
  match text.toList with
  | '/' :: c :: rest =>
    if (c :: rest).getLast? == some '/' && !rest.isEmpty then
      some (String.ofList (c :: rest).dropLast)
    else none
  | _ => none

/-- The truth value that a text writes. -/
def truth? (text : List Char) : Option Bool :=
  let word := String.ofList (text.map Char.toLower)
  if word == "true" || word == "1" then some true
  else if word == "false" || word == "0" then some false
  else none

namespace RuleValue

/-- The kinds of rule values. -/
inductive Kind where
  | literal
  | pattern
  | number
  | integer
  | boolean
  deriving DecidableEq, Repr

/-- The kind of a value. -/
def kind : RuleValue → Kind
  | .literal _ => .literal
  | .pattern _ => .pattern
  | .number _ => .number
  | .integer _ => .integer
  | .boolean _ => .boolean

/-- Whether a text is what the value expects.  A literal that ends in a star may stand for a
beginning, where wildcards are allowed; padding does not count for numbers and truth values. -/
def accepts (value : RuleValue) (actual : String) (allowWildcard : Bool) : Bool :=
  match value with
  | .literal expected => matchText actual expected allowWildcard
  | .pattern p => p.isMatch actual
  | .number expected => (Decimal.real? (trim actual.toList)).any (isNear · expected)
  | .integer expected => Decimal.integer? (trim actual.toList) == some expected
  | .boolean expected => truth? (trim actual.toList) == some expected

/-- The value as a text. -/
def asText : RuleValue → String
  | .literal text => text
  | .pattern p => "/" ++ p.source ++ "/"
  | .number x => Decimal.Layout.plain.renderDouble x
  | .integer n => toString n
  | .boolean b => if b then "true" else "false"

/-- The value as it is shown: a literal stands in quotes. -/
def display : RuleValue → String
  | .literal text => "\"" ++ text ++ "\""
  | value => value.asText

/-- The value in JSON. -/
def toJson : RuleValue → Json
  | .number x => .number (.double x)
  | .integer n => .number (.integer n)
  | .boolean b => .bool b
  | value => .string value.asText

/-- Whether two values are equal: numbers as numbers, patterns by their source. -/
def same : RuleValue → RuleValue → Bool
  | .literal a, .literal b => a == b
  | .pattern a, .pattern b => a.source == b.source
  | .number x, .number y => x == y
  | .integer m, .integer n => m == n
  | .boolean a, .boolean b => a == b
  | _, _ => false

end RuleValue

end LumpRules
