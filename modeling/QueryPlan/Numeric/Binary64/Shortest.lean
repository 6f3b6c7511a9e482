import QueryPlan.Numeric.Binary64
import QueryPlan.Numeric.TenPow

set_option autoImplicit false

/-! # Shortest decimal digits

The decimal digits that show a floating point number are the fewest that read back as the same
number; among those of equal length the nearest, and of two equally near the larger. -/

namespace QueryPlan.Binary64

/-! ## The interval of a number -/

/-- The real numbers that round to a number, with the number itself, as numerators over one
    denominator. -/
structure Interval where
  low : Nat
  value : Nat
  high : Nat
  den : Nat
  /-- Whether the two ends round to the number as well. -/
  closed : Bool

/-- The interval of a positive finite number. It reaches half way to the neighbours; the lower
    neighbour of a power of two is nearer than the upper one. -/
def interval (x : Binary64) : Interval :=
  let m := 4 * x.significand
  let atPower := x.fraction = 0 ∧ 1 < x.exponentField
  let unit := x.exponent - 2
  let factor := 1 <<< unit.toNat
  { low := (m - if atPower then 1 else 2) * factor
    value := m * factor
    high := (m + 2) * factor
    den := 1 <<< (-unit).toNat
    closed := x.significand % 2 = 0 }

/-- The interval with all numbers divided by `10 ^ power`. -/
def Interval.divTenPow (i : Interval) (power : Int) : Interval :=
  let factor := tenPow (-power).toNat
  { low := i.low * factor
    value := i.value * factor
    high := i.high * factor
    den := i.den * tenPow power.toNat
    closed := i.closed }

/-- Whether a natural number lies in the interval. -/
def Interval.contains (i : Interval) (n : Nat) : Bool :=
  if i.closed then i.low ≤ n * i.den && n * i.den ≤ i.high
  else i.low < n * i.den && n * i.den < i.high

/-- The natural number in the interval that is nearest to its value, the larger one of two. Only
    the two neighbours of the value need a look: if one of them misses the interval, so does all
    that lies beyond it. -/
def Interval.nearest? (i : Interval) : Option Nat :=
  let below := i.value / i.den
  let above := below + 1
  let down := i.value - below * i.den
  let up := above * i.den - i.value
  match i.contains below, i.contains above with
  | true, true => some (if down < up then below else above)
  | true, false => some below
  | false, true => some above
  | false, false => none

/-! ## The digits -/

/-- The largest `k` with `10 ^ k ≤ num / den`, for positive `num` and `den`. -/
def decimalOrder (num den : Nat) : Int :=
  let guess : Int := ((Nat.toDigits 10 num).length : Int) - (Nat.toDigits 10 den).length
  if den * tenPow guess.toNat ≤ num * tenPow (-guess).toNat then guess else guess - 1

/-- A number `d₀.d₁d₂… · 10 ^ order` by its digit characters. -/
structure Digits where
  chars : List Char
  order : Int

/-- A coefficient times `10 ^ power`, without trailing zeros. -/
def Digits.ofScaled (coefficient : Nat) (power : Int) : Digits :=
  let all := Nat.toDigits 10 coefficient
  { chars := (all.reverse.dropWhile (· = '0')).reverse
    order := power + all.length - 1 }

/-- The shortest digits of a positive finite number. Seventeen digits are always enough. -/
def shortest (x : Binary64) : Digits :=
  let i := x.interval
  let order := decimalOrder i.value i.den
  let powers := (List.range 17).map fun (places : Nat) => order - places
  let found := powers.findSome? fun power =>
    (i.divTenPow power).nearest?.map fun coefficient => Digits.ofScaled coefficient power
  found.getD { chars := ['0'], order := 0 }

/-! ## The text -/

/-- The decimal orders that are written without an exponent: from `0.0001` to below `10 ^ 16`. -/
def isPositional (order : Int) : Bool :=
  -4 ≤ order && order < 16

/-- Digits with a point in its place and at least one digit on either side of it. -/
def positionalText (d : Digits) : String :=
  if d.order < 0 then
    "0." ++ String.ofList (List.replicate (-d.order - 1).toNat '0' ++ d.chars)
  else
    let width := d.order.toNat + 1
    let whole := d.chars.take width ++ List.replicate (width - d.chars.length) '0'
    let decimals := d.chars.drop width
    String.ofList whole ++ "." ++ (if decimals.isEmpty then "0" else String.ofList decimals)

/-- One digit, the others after a point if there are any, and the exponent. -/
def scientificText (d : Digits) : String :=
  let decimals := d.chars.drop 1
  String.ofList (d.chars.take 1) ++ (if decimals.isEmpty then "" else "." ++ String.ofList decimals)
    ++ "e" ++ toString d.order

/-- The text of a floating point number. A NaN shows neither sign nor payload; zero shows its
    sign. -/
def text (x : Binary64) : String :=
  if x.isNaN then "NaN"
  else
    let sign := if x.negative then "-" else ""
    if !x.isFinite then sign ++ "inf"
    else if x.significand = 0 then sign ++ "0.0"
    else
      let digits := x.shortest
      sign ++ if isPositional digits.order then positionalText digits else scientificText digits

end QueryPlan.Binary64
