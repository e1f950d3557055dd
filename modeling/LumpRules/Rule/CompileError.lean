import LumpRules.Json.Reader
import LumpRules.Rule.Basic

/-!
# Errors of rule documents

A `CompileError` says why the sections of a document are not rules.  Each of them makes the
whole document useless.
-/

namespace LumpRules

/-- What a value of a rule should have been. -/
inductive ExpectedType where
  | object
  | connectionList
  | scalar
  | text
  | number
  | integer32
  deriving DecidableEq, Repr

/-- How an expected value is named in messages. -/
def ExpectedType.describe : ExpectedType → String
  | .object => "an object"
  | .connectionList => "an array of connections"
  | .scalar => "a string, number or boolean"
  | .text => "a string"
  | .number => "a number"
  | .integer32 => "a 32-bit integer"

/-- Why the sections of a document are not rules. -/
inductive CompileError where
  | invalidJson (preview : String) (reason : Json.ReadError)
  | invalidPattern (text : String)
  | missingMatchBlock
  | invalidValueType (key : String) (expected : ExpectedType) (found : JsonKind)
  | duplicateReplacement (key : String)
  | invalidSection (kind : RuleKind) (found : JsonKind)
  deriving DecidableEq, Repr

/-- The wording of an error. -/
def CompileError.message : CompileError → String
  | .invalidJson preview reason =>
    "invalid JSON in fragment `" ++ preview ++ "`: " ++ reason.message
  | .invalidPattern text => "failed to compile pattern '" ++ text ++ "'"
  | .missingMatchBlock => "missing 'match' block in 'modify' section"
  | .invalidValueType key expected found =>
    "invalid value of [" ++ key ++ "]: expected " ++ expected.describe ++ ", found " ++
      found.describe
  | .duplicateReplacement key =>
    "'replace' holds more than one connection object (second one under [" ++ key ++ "])"
  | .invalidSection kind found =>
    "section '" ++ kind.name ++ "' must hold an object or an array of objects, found " ++
      found.describe

/-- The number of characters that a preview shows. -/
def previewLength : Nat := 64

/-- The start of a text, with dots if it goes on. -/
def preview (text : String) : String :=
  let chars := text.toList
  if chars.length ≤ previewLength then text
  else String.ofList (chars.take previewLength) ++ "..."

end LumpRules
