import QueryPlan.Numeric.Binary64.Rounding
import QueryPlan.Numeric.TenPow
import QueryPlan.Text.Digits

set_option autoImplicit false

/-! # Reading floating point numbers

A floating point text is an optional sign followed by `inf`, `infinity` or `nan` in any case, or by
digits with an optional point (a digit on at least one side of it) and an optional exponent. The
number it stands for is rounded once, to the nearest double. -/

namespace QueryPlan.Binary64

/-- An optional exponent at the end of a number: `e` or `E`, an optional sign and digits. -/
def readExponent? : List Char → Option Int
  | [] => some 0
  | mark :: rest =>
    if mark = 'e' ∨ mark = 'E' then do
      let (negative, digits) := Text.splitSign rest
      let magnitude ← Text.readNat? digits
      return if negative then -(magnitude : Int) else magnitude
    else none

/-- The double nearest to the number with these significant digits times `10 ^ power`. Numbers far
    outside the range are decided from the place of their leading digit. -/
def ofScientific (negative : Bool) (digits : List Nat) (power : Int) : Binary64 :=
  let significant := digits.dropWhile (· = 0)
  let place := power + significant.length
  if significant.isEmpty ∨ place < -330 then ofMagnitude negative 0
  else if 330 < place then infinity negative
  else
    ofRatio negative (Text.ofDigits significant * tenPow power.toNat) (tenPow (-power).toNat)

/-- Digits with an optional point and an optional exponent. -/
def readNumber? (negative : Bool) (cs : List Char) : Option Binary64 := do
  let (whole, afterWhole) := Text.spanDigits cs
  let (decimals, afterPoint) :=
    match afterWhole with
    | '.' :: rest => Text.spanDigits rest
    | _ => ([], afterWhole)
  if whole.isEmpty ∧ decimals.isEmpty then none
  else do
    let power ← readExponent? afterPoint
    return ofScientific negative (whole ++ decimals) (power - decimals.length)

/-- Reads a floating point number. -/
def read? (cs : List Char) : Option Binary64 :=
  let (negative, body) := Text.splitSign cs
  let word := String.ofList (body.map Char.toLower)
  if word = "inf" ∨ word = "infinity" then some (infinity negative)
  else if word = "nan" then some (nan negative)
  else readNumber? negative body

end QueryPlan.Binary64
