import QueryPlan.Numeric.Binary64
import QueryPlan.Numeric.Decimal

set_option autoImplicit false

/-! # From binary to decimal floating point

A finite double is carried over with all the digits that fit. The number is kept as
`bits · 5 ^ fives · 2 ^ -…`: while powers of five are missing, the significand is multiplied by
five as long as it fits into 96 bits and loses its lowest bit where it does not; while there are
too many, it is divided. What is left is a power of ten, brought into the range of the scale. -/

namespace QueryPlan.Decimal

/-- The number `bits · 10 ^ tens`, up to a remaining power of five. -/
structure TenScaled where
  bits : Nat
  tens : Int
deriving DecidableEq

/-- Multiplies by five `count` times. Even numbers give up a factor of two instead, which makes a
    ten together with the five; so do numbers that would outgrow 96 bits. -/
def raiseFives : Nat → TenScaled → TenScaled
  | 0, s => s
  | count + 1, s =>
    if s.bits % 2 = 0 then raiseFives count ⟨s.bits / 2, s.tens + 1⟩
    else if s.bits * 5 < mantissaLimit then raiseFives count ⟨s.bits * 5, s.tens⟩
    else raiseFives count ⟨s.bits / 2, s.tens + 1⟩

/-- Divides by five `count` times. As long as the highest of the 96 bits is free, doubling and
    taking out a ten does the same without loss; a number that stays too large is refused. -/
def lowerFives? : Nat → TenScaled → Option TenScaled
  | 0, s => some s
  | count + 1, s =>
    if s.bits * 2 < mantissaLimit then lowerFives? count ⟨s.bits * 2, s.tens - 1⟩
    else if (count + 1 : Int) < s.tens * 2 then none
    else lowerFives? count ⟨s.bits / 5, s.tens⟩

/-- Multiplies by ten `count` times, within 96 bits. -/
def raiseTens? (bits : Nat) (count : Nat) : Option Nat :=
  if bits * tenPow count < mantissaLimit then some (bits * tenPow count) else none

/-- Divides by ten `count` times, rounding each time, five and more upwards. Once nothing is left,
    the scale is given up as well. -/
def lowerTens : Nat → TenScaled → TenScaled
  | 0, s => s
  | count + 1, s =>
    let quotient := s.bits / 10
    if quotient = 0 then ⟨0, 0⟩
    else lowerTens count ⟨quotient + (if s.bits % 10 < 5 then 0 else 1), s.tens + 1⟩

/-- The decimal that shows a double; infinities, NaN and numbers that do not fit have none. -/
def ofBinary64? (x : Binary64) : Option Decimal :=
  if !x.isFinite then none
  else if x.significand = 0 then ofParts? x.negative 0 0
  else do
    let start : TenScaled := ⟨x.significand, x.exponent⟩
    let scaled ←
      if x.exponent < 0 then some (raiseFives (-x.exponent).toNat start)
      else lowerFives? x.exponent.toNat start
    if 0 < scaled.tens then
      let bits ← raiseTens? scaled.bits scaled.tens.toNat
      ofParts? x.negative bits 0
    else
      let fitted := lowerTens (-28 - scaled.tens).toNat scaled
      ofParts? x.negative fitted.bits (-fitted.tens).toNat

end QueryPlan.Decimal
