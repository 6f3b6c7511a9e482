import QueryPlan.Numeric.Binary64

set_option autoImplicit false

/-! # Rounding to binary floating point

`ofRatio` gives the double nearest to a nonnegative fraction, the even one of two that are equally
near, and infinity from half a unit above the largest finite number on. All arithmetic is exact. -/

namespace QueryPlan.Binary64

/-- `num / den` rounded to the nearest natural number, a half to the even neighbour. -/
def roundHalfEven (num den : Nat) : Nat :=
  let floor := num / den
  let twice := 2 * (num % den)
  if twice < den ∨ (twice = den ∧ floor % 2 = 0) then floor else floor + 1

/-- The rounded value is within half a unit. -/
theorem roundHalfEven_near (num den : Nat) (h : 0 < den) :
    2 * (roundHalfEven num den * den) ≤ 2 * num + den ∧
      2 * num ≤ 2 * (roundHalfEven num den * den) + den := by
  have split := Nat.div_add_mod num den
  have below := Nat.mod_lt num h
  rw [Nat.mul_comm] at split
  unfold roundHalfEven
  dsimp only
  split
  · omega
  · rw [Nat.add_mul, Nat.one_mul]
    omega

/-- The fraction `num / den` multiplied by `2 ^ -power`, as numerator and denominator. -/
def divTwoPow (num den : Nat) (power : Int) : Nat × Nat :=
  (num <<< (-power).toNat, den <<< power.toNat)

/-- The largest `k` with `2 ^ k ≤ num / den`, for positive `num` and `den`. -/
def binaryOrder (num den : Nat) : Int :=
  let guess : Int := (num.log2 : Int) - den.log2
  let (n, d) := divTwoPow num den guess
  if d ≤ n then guess else guess - 1

/-- The double nearest to `num / den`, with the given sign. -/
def ofRatio (negative : Bool) (num den : Nat) : Binary64 :=
  if num = 0 then ofMagnitude negative 0
  else
    let unit := max (binaryOrder num den - 52) (-1074)
    let (n, d) := divTwoPow num den unit
    let magnitude := (unit + 1074).toNat * hiddenBit + roundHalfEven n d
    ofMagnitude negative (min magnitude infiniteMagnitude)

/-- The double nearest to an integer. -/
def ofInt (value : Int) : Binary64 :=
  ofRatio (value < 0) value.natAbs 1

end QueryPlan.Binary64
