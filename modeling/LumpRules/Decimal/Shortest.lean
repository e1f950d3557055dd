/-!
# The fewest digits that read back

A positive binary floating-point number is `m · 2 ^ q`; the reals that round to it form an
interval around it, whose ends belong to it when `m` is even.  `shortest` finds the decimal
`d · 10 ^ k` in that interval with the fewest digits and, among those, the nearest one.  It
tries the grids of one digit, two digits and so on; on each grid only the two neighbours of the
number need a test.  All comparisons are between natural numbers.
-/

namespace LumpRules

/-- The decimal `digits · 10 ^ exponent`. -/
structure Decimal where
  digits : Nat
  exponent : Int
  deriving DecidableEq, Repr

namespace Decimal

/-- The number `significand · 2 ^ exponent`.  It is `narrow` when the next number below it is
only half as far away as the next one above. -/
structure Dyadic where
  significand : Nat
  exponent : Int
  narrow : Bool
  deriving DecidableEq, Repr

/-- Which of two equally near decimals is taken. -/
inductive Tie where
  | up
  | toEven
  deriving DecidableEq, Repr

/-- A quotient of natural numbers. -/
structure Quotient where
  numerator : Nat
  denominator : Nat
  deriving DecidableEq, Repr

namespace Quotient

/-- Whether the first quotient is at most the second. -/
def le (a b : Quotient) : Bool :=
  a.numerator * b.denominator ≤ b.numerator * a.denominator

/-- Whether the first quotient is less than the second. -/
def lt (a b : Quotient) : Bool :=
  a.numerator * b.denominator < b.numerator * a.denominator

/-- The quotient `n · base ^ e`. -/
def scaled (n base : Nat) (e : Int) : Quotient :=
  if 0 ≤ e then ⟨n * base.pow e.toNat, 1⟩ else ⟨n, base.pow (-e).toNat⟩

/-- The exponent of the first digit of a positive quotient. -/
def leadingExponent (x : Quotient) : Int :=
  if x.denominator ≤ x.numerator then
    ((Nat.toDigits 10 (x.numerator / x.denominator)).length : Int) - 1
  else
    let places := (Nat.toDigits 10 (x.denominator / x.numerator)).length
    if x.denominator ≤ x.numerator * Nat.pow 10 (places - 1) then -((places : Int) - 1) else -places

/-- The greatest multiple of `10 ^ e` not above the quotient, counted in those units. -/
def floorAt (x : Quotient) (e : Int) : Nat :=
  if 0 ≤ e then x.numerator / (x.denominator * Nat.pow 10 e.toNat)
  else x.numerator * Nat.pow 10 (-e).toNat / x.denominator

end Quotient

namespace Dyadic

/-- The number as a quotient. -/
def toQuotient (x : Dyadic) : Quotient :=
  .scaled x.significand 2 x.exponent

/-- The lower end of the interval that rounds to the number. -/
def lower (x : Dyadic) : Quotient :=
  .scaled (4 * x.significand - if x.narrow then 1 else 2) 2 (x.exponent - 2)

/-- The upper end of the interval that rounds to the number. -/
def upper (x : Dyadic) : Quotient :=
  .scaled (4 * x.significand + 2) 2 (x.exponent - 2)

/-- Whether a quotient rounds to the number. -/
def covers (x : Dyadic) (y : Quotient) : Bool :=
  if x.significand % 2 == 0 then x.lower.le y && y.le x.upper else x.lower.lt y && y.lt x.upper

/-- Of the two neighbours `d` and `d + 1` of the number on the grid of `10 ^ e`, the nearer one
that rounds to the number, if any does. -/
def onGrid? (x : Dyadic) (tie : Tie) (e : Int) : Option Decimal :=
  let d := x.toQuotient.floorAt e
  let below := x.covers (.scaled d 10 e)
  let above := x.covers (.scaled (d + 1) 10 e)
  let middle := Quotient.scaled (2 * d + 1) 10 e
  let twice := Quotient.scaled (2 * x.significand) 2 x.exponent
  let preferAbove :=
    if twice.lt middle then false
    else if middle.lt twice then true
    else match tie with
      | .up => true
      | .toEven => d % 2 == 1
  if below && above then some ⟨if preferAbove then d + 1 else d, e⟩
  else if below then some ⟨d, e⟩
  else if above then some ⟨d + 1, e⟩
  else none

/-- The first hit on the grids from `10 ^ e` downwards, over the given number of grids. -/
def firstOnGrids? (x : Dyadic) (tie : Tie) : Nat → Int → Option Decimal
  | 0, _ => none
  | grids + 1, e => (x.onGrid? tie e).or (x.firstOnGrids? tie grids (e - 1))

end Dyadic

/-- The decimal of the same value whose digits do not end in zero, taking off at most the given
number of zeros. -/
def stripZeros : Nat → Decimal → Decimal
  | 0, x => x
  | n + 1, x =>
    if x.digits % 10 == 0 then stripZeros n ⟨x.digits / 10, x.exponent + 1⟩ else x

/-- The most digits that are ever needed. -/
def maxDigits : Nat := 17

/-- The nearest of the shortest decimals that round to a positive number. -/
def shortest (tie : Tie) (x : Dyadic) : Decimal :=
  let grids := x.firstOnGrids? tie maxDigits x.toQuotient.leadingExponent
  (grids.getD ⟨0, 0⟩).stripZeros maxDigits

end Decimal

end LumpRules
