import LumpRules.Json.Basic
import LumpRules.Decimal.Layout

/-!
# Writing JSON

`Json.render` writes a value without any space.  Control characters, quotes and backslashes are
escaped, every other character is written as it is.  A number that is not an integer has its
shortest digits and always shows a fraction or an exponent; what is not finite becomes `null`.
-/

namespace LumpRules

open Decimal

/-- Numbers of double precision are positional from `0.00001` up to below `10 ^ 16`. -/
def jsonDouble : Layout where
  positionalFrom := some (-5)
  positionalBelow := some 16
  wholeEnding := ".0"
  tie := .toEven
  nan := "null"
  infinity := "null"
  negativeInfinity := "null"

/-- Numbers of single precision are positional from `0.000001` up to below `10 ^ 13`. -/
def jsonSingle : Layout :=
  { jsonDouble with positionalFrom := some (-6), positionalBelow := some 13 }

/-- The text of a number. -/
def JsonNumber.render : JsonNumber → String
  | .integer n => toString n
  | .double x => jsonDouble.renderDouble x
  | .single x => jsonSingle.renderSingle x

namespace Json

/-- A small digit of base sixteen. -/
def hexDigit (n : Nat) : Char :=
  Nat.digitChar (n % 16)

/-- A character inside a quoted text. -/
def escape (c : Char) : List Char :=
  match c with
  | '"' => ['\\', '"']
  | '\\' => ['\\', '\\']
  | '\x08' => ['\\', 'b']
  | '\x0c' => ['\\', 'f']
  | '\n' => ['\\', 'n']
  | '\r' => ['\\', 'r']
  | '\t' => ['\\', 't']
  | c =>
    if c.toNat < 0x20 then ['\\', 'u', '0', '0', hexDigit (c.toNat / 16), hexDigit c.toNat]
    else [c]

/-- A text in quotes. -/
def quote (s : String) : String :=
  String.ofList ('"' :: s.toList.flatMap escape ++ ['"'])

mutual

/-- The text of a value. -/
def render : Json → String
  | .null => "null"
  | .bool b => if b then "true" else "false"
  | .number n => n.render
  | .string s => quote s
  | .array items => "[" ++ ",".intercalate (renderItems items) ++ "]"
  | .object members => "\x7b" ++ ",".intercalate (renderMembers members) ++ "\x7d"

/-- The texts of the elements of an array. -/
def renderItems : List Json → List String
  | [] => []
  | item :: rest => item.render :: renderItems rest

/-- The texts of the members of an object. -/
def renderMembers : List (String × Json) → List String
  | [] => []
  | (name, value) :: rest => (quote name ++ ":" ++ value.render) :: renderMembers rest

end

end Json

end LumpRules
