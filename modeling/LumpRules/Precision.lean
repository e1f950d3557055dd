/-!
# Single and double precision

Delays are read as numbers of double precision, kept in single precision, and compared in double
precision again.  `narrow` rounds to the nearest number of single precision and `widen` goes back
without a loss.  A number that is too large for single precision becomes infinite.
-/

namespace LumpRules.Precision

open Float.Model (Format UnpackedFloat)

/-- A number with as many digits as a format has; of two equally near ones the even one. -/
def rounded (format : Format) : UnpackedFloat → UnpackedFloat
  | .finite sign mantissa exponent _ => .round format sign mantissa exponent
  | number => number

/-- The number of single precision that is nearest to one of double precision. -/
def narrow (x : Float) : Float32 :=
  ⟨.pack (rounded .binary32 x.toModel.unpack)⟩

/-- A number of single precision as one of double precision. -/
def widen (x : Float32) : Float :=
  ⟨.pack (rounded .binary64 x.toModel.unpack)⟩

end LumpRules.Precision
