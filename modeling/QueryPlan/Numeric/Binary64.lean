set_option autoImplicit false

/-! # Binary floating point numbers

A `Binary64` is an IEEE 754 double, kept as its bits. Equality is equality of bits, so a NaN is
equal to itself and the two zeros differ. A finite number has the magnitude
`significand · 2 ^ exponent`. -/

namespace QueryPlan

/-- A double by its bits: the sign, eleven bits of exponent, fifty-two bits of fraction. -/
structure Binary64 where
  bits : UInt64
deriving DecidableEq

namespace Binary64

/-! ## The fields -/

/-- The sign bit, 2 to the power 63. -/
def signBit : Nat := 0x8000000000000000

/-- The hidden leading bit of a significand, 2 to the power 52; fractions are below it. -/
def hiddenBit : Nat := 0x10000000000000

/-- The number of stored exponents. The largest of them, 2047, marks infinities and NaN. -/
def exponentCount : Nat := 2048

/-- Whether the sign bit is set. -/
def negative (x : Binary64) : Bool :=
  signBit ≤ x.bits.toNat

/-- The stored exponent. -/
def exponentField (x : Binary64) : Nat :=
  x.bits.toNat / hiddenBit % exponentCount

/-- The stored fraction. -/
def fraction (x : Binary64) : Nat :=
  x.bits.toNat % hiddenBit

/-- Whether this is a number and not an infinity or a NaN. -/
def isFinite (x : Binary64) : Bool :=
  x.exponentField ≠ 2047

/-- Whether this is a NaN, with any sign and payload. -/
def isNaN (x : Binary64) : Bool :=
  x.exponentField = 2047 && x.fraction ≠ 0

/-- The integer significand of a finite number; normal numbers have a hidden leading bit. -/
def significand (x : Binary64) : Nat :=
  if x.exponentField = 0 then x.fraction else x.fraction + hiddenBit

/-- The power of two that multiplies the significand of a finite number. -/
def exponent (x : Binary64) : Int :=
  (max x.exponentField 1 : Nat) - 1075

/-! ## Putting a number together -/

/-- The number with this sign whose other 63 bits, read as a natural number, are `magnitude`. -/
def ofMagnitude (negative : Bool) (magnitude : Nat) : Binary64 :=
  ⟨UInt64.ofNat (magnitude + if negative then signBit else 0)⟩

/-- The bits of an infinity without its sign. All finite magnitudes are below it. -/
def infiniteMagnitude : Nat :=
  2047 * hiddenBit

/-- The infinity of this sign. -/
def infinity (negative : Bool) : Binary64 :=
  ofMagnitude negative infiniteMagnitude

/-- The quiet NaN of this sign with an empty payload. -/
def nan (negative : Bool) : Binary64 :=
  ofMagnitude negative (infiniteMagnitude + hiddenBit / 2)

end Binary64

end QueryPlan
