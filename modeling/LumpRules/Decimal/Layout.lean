import LumpRules.Decimal.Shortest

/-!
# Writing floating-point numbers

A number is written with its shortest digits.  How they are laid out is a record of decisions,
a `Layout`: which exponents are written positionally, whether a whole number keeps a fraction,
which of two equally near decimals is taken, and the texts of what is not finite.
-/

namespace LumpRules.Decimal

/-- The widths of the two fields of a binary floating-point format. -/
structure BinaryFormat where
  fractionBits : Nat
  exponentBits : Nat

/-- Double precision. -/
def BinaryFormat.double : BinaryFormat := ⟨52, 11⟩

/-- Single precision. -/
def BinaryFormat.single : BinaryFormat := ⟨23, 8⟩

/-- What the bits of a floating-point number mean. -/
inductive Reading where
  | nan
  | infinite (negative : Bool)
  | zero (negative : Bool)
  | finite (negative : Bool) (magnitude : Dyadic)
  deriving DecidableEq, Repr

/-- The meaning of a pattern of bits. -/
def BinaryFormat.decode (format : BinaryFormat) (bits : Nat) : Reading :=
  let fraction := bits % Nat.pow 2 format.fractionBits
  let exponent := bits / Nat.pow 2 format.fractionBits % Nat.pow 2 format.exponentBits
  let negative := bits / Nat.pow 2 (format.fractionBits + format.exponentBits) % 2 == 1
  let lowest : Int := 2 - Nat.pow 2 (format.exponentBits - 1) - format.fractionBits
  if exponent == Nat.pow 2 format.exponentBits - 1 then
    if fraction == 0 then .infinite negative else .nan
  else if exponent == 0 then
    if fraction == 0 then .zero negative else .finite negative ⟨fraction, lowest, false⟩
  else
    .finite negative
      ⟨fraction + Nat.pow 2 format.fractionBits, lowest + exponent - 1,
        fraction == 0 && exponent != 1⟩

/-- The decisions of a number format. -/
structure Layout where
  /-- The least exponent of the first digit that is written positionally, if there is one. -/
  positionalFrom : Option Int
  /-- The exponent of the first digit from which on numbers are not written positionally. -/
  positionalBelow : Option Int
  /-- What follows a whole number written positionally. -/
  wholeEnding : String
  tie : Tie
  nan : String
  infinity : String
  negativeInfinity : String

namespace Layout

/-- Whether a first digit of the given exponent is written positionally. -/
def isPositional (layout : Layout) (e : Int) : Bool :=
  (layout.positionalFrom.all (· ≤ e)) && (layout.positionalBelow.all (e < ·))

/-- A run of zeros. -/
def zeros (n : Nat) : String :=
  String.ofList (List.replicate n '0')

/-- The text of a positive decimal. -/
def renderDecimal (layout : Layout) (x : Decimal) : String :=
  let digits := Nat.toDigits 10 x.digits
  let e := x.exponent + digits.length - 1
  if layout.isPositional e then
    if 0 ≤ x.exponent then
      String.ofList digits ++ zeros x.exponent.toNat ++ layout.wholeEnding
    else if 0 ≤ e then
      String.ofList (digits.take (e.toNat + 1)) ++ "." ++
        String.ofList (digits.drop (e.toNat + 1))
    else
      "0." ++ zeros (-e - 1).toNat ++ String.ofList digits
  else
    let fraction := digits.drop 1
    String.ofList (digits.take 1) ++
      (if fraction.isEmpty then "" else "." ++ String.ofList fraction) ++
      "e" ++ (if e < 0 then "-" else "+") ++ toString e.natAbs

/-- The text of a number. -/
def render (layout : Layout) : Reading → String
  | .nan => layout.nan
  | .infinite negative => if negative then layout.negativeInfinity else layout.infinity
  | .zero negative => (if negative then "-" else "") ++ "0" ++ layout.wholeEnding
  | .finite negative x =>
    (if negative then "-" else "") ++ layout.renderDecimal (shortest layout.tie x)

/-- The text of a number of double precision. -/
def renderDouble (layout : Layout) (x : Float) : String :=
  layout.render (BinaryFormat.double.decode x.toBits.toNat)

/-- The text of a number of single precision. -/
def renderSingle (layout : Layout) (x : Float32) : String :=
  layout.render (BinaryFormat.single.decode x.toBits.toNat)

end Layout

/-- Plain text: always positional, whole numbers without a fraction. -/
def Layout.plain : Layout where
  positionalFrom := none
  positionalBelow := none
  wholeEnding := ""
  tie := .up
  nan := "NaN"
  infinity := "inf"
  negativeInfinity := "-inf"

end LumpRules.Decimal
