/-!
# Reading numbers

`integer?` reads a signed 64-bit integer and `real?` a number of double precision from the
whole of a text; both allow a sign.  `scale?` forms the product of a significand and a power of
ten by one multiplication or division by that power, and fails where the product is too large.
-/

namespace LumpRules.Decimal

/-- The least signed 64-bit integer. -/
def minInteger : Int := -0x8000000000000000

/-- The greatest signed 64-bit integer. -/
def maxInteger : Int := 0x7fffffffffffffff

/-- The natural number that decimal digits write after those of `high`. -/
def digitsFrom (high : Nat) (digits : List Char) : Nat :=
  digits.foldl (fun n c => n * 10 + (c.toNat - '0'.toNat)) high

/-- The sign at the start of a text, true for minus, and the rest. -/
def signed : List Char → Bool × List Char
  | '-' :: rest => (true, rest)
  | '+' :: rest => (false, rest)
  | text => (false, text)

/-- The signed 64-bit integer that a text writes in decimal. -/
def integer? (text : List Char) : Option Int :=
  let (negative, digits) := signed text
  if digits.isEmpty || !digits.all Char.isDigit then
    none
  else
    let magnitude : Int := digitsFrom 0 digits
    let value := if negative then -magnitude else magnitude
    if minInteger ≤ value && value ≤ maxInteger then some value else none

/-- The number of double precision nearest to `significand · 10 ^ exponent`. -/
def nearest (significand : Nat) (exponent : Int) : Float :=
  let order := exponent + (Nat.toDigits 10 significand).length
  if significand == 0 || order < -400 then
    0.0
  else if 400 < order then
    1.0 / 0.0
  else
    Float.ofScientific significand (exponent < 0) exponent.natAbs

/-- The exponent that a text writes after its digits: none at all, or the letter `e` and an
integer. -/
def exponentPart? : List Char → Option Int
  | [] => some 0
  | c :: rest =>
    let (negative, digits) := signed rest
    if c.toLower != 'e' || digits.isEmpty || !digits.all Char.isDigit then
      none
    else
      let magnitude : Int := digitsFrom 0 digits
      some (if negative then -magnitude else magnitude)

/-- The number that a text without a sign writes: digits with at most one point and an optional
exponent, or the name of a value that is not finite. -/
def unsigned? (text : List Char) : Option Float :=
  let (whole, afterWhole) := text.span Char.isDigit
  let (fraction, afterDigits) :=
    match afterWhole with
    | '.' :: rest => rest.span Char.isDigit
    | rest => ([], rest)
  if whole.isEmpty && fraction.isEmpty then
    let name := String.ofList (text.map Char.toLower)
    if name == "inf" || name == "infinity" then some (1.0 / 0.0)
    else if name == "nan" then some (0.0 / 0.0)
    else none
  else
    (exponentPart? afterDigits).map fun exponent =>
      nearest (digitsFrom (digitsFrom 0 whole) fraction) (exponent - fraction.length)

/-- The number of double precision that a text writes. -/
def real? (text : List Char) : Option Float :=
  let (negative, rest) := signed text
  (unsigned? rest).map fun x => if negative then -x else x

/-! ### Significands and powers of ten -/

/-- The greatest power of ten of double precision has this exponent. -/
def maxPower : Nat := 308

/-- A power of ten, as near as double precision allows. -/
def power (e : Nat) : Float :=
  Float.ofScientific 1 false e

/-- A number divided by a power of ten, in steps no larger than the greatest power. -/
def scaleDown (x : Float) (e : Nat) : Float :=
  if e ≤ maxPower then x / power e
  else if x == 0.0 then x
  else scaleDown (x / power maxPower) (e - maxPower)
termination_by e
decreasing_by simp only [maxPower] at *; omega

/-- A number times a power of ten, unless it becomes infinite. -/
def scale? (x : Float) (e : Int) : Option Float :=
  if e < 0 then
    some (scaleDown x e.natAbs)
  else if e.toNat ≤ maxPower then
    let product := x * power e.toNat
    if product.isInf then none else some product
  else if x == 0.0 then some x
  else none

end LumpRules.Decimal
