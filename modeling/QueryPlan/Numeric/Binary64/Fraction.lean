import QueryPlan.Numeric.Binary64.Rounding

set_option autoImplicit false

/-! # Fractions summed digit by digit

`ofFraction` adds up the digits behind a decimal point in floating point, each divided by its power
of ten; every quotient and every partial sum is rounded to the nearest double. The sum can miss the
double nearest to the fraction, and enough nines make it 1. No number here is negative. -/

namespace QueryPlan.Binary64

/-! ## Arithmetic -/

/-- The magnitude of a finite number, as numerator and denominator. -/
def ratio (x : Binary64) : Nat × Nat :=
  (x.significand <<< x.exponent.toNat, 1 <<< (-x.exponent).toNat)

/-- The double nearest to the sum of two magnitudes. -/
def add (x y : Binary64) : Binary64 :=
  let (m, c) := x.ratio
  let (n, d) := y.ratio
  ofRatio false (m * d + n * c) (c * d)

/-- The double nearest to `factor` times a magnitude. -/
def scale (factor : Nat) (x : Binary64) : Binary64 :=
  let (m, c) := x.ratio
  ofRatio false (factor * m) c

/-- The double nearest to a natural number over a magnitude. -/
def quotient (n : Nat) (x : Binary64) : Binary64 :=
  let (m, c) := x.ratio
  ofRatio false (n * c) m

/-- The largest natural number that is not above a magnitude. -/
def floor (x : Binary64) : Nat :=
  let (m, c) := x.ratio
  m / c

/-- The natural number nearest to a magnitude, the larger of two. -/
def nearestNat (x : Binary64) : Nat :=
  let (m, c) := x.ratio
  (2 * m + c) / (2 * c)

/-! ## The sum -/

/-- Adds the remaining digits to a sum. The first of them counts `1 / divisor`; over an infinite
    divisor a digit counts nothing, and neither do the ones after it. -/
def addDigits (sum divisor : Binary64) : List Nat → Binary64
  | [] => sum
  | digit :: rest =>
    if divisor.isFinite then addDigits (sum.add (quotient digit divisor)) (divisor.scale 10) rest
    else sum

/-- The fraction with these digits behind the point. -/
def ofFraction (digits : List Nat) : Binary64 :=
  addDigits (ofInt 0) (ofInt 10) digits

end QueryPlan.Binary64
