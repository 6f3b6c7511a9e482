import QueryPlan.Numeric.Decimal

set_option autoImplicit false

/-! # Reading decimal numbers

A decimal text is an optional sign and digits with at most one point; once a digit has been seen,
underscores may stand anywhere. Digits are collected as long as they fit into the mantissa and the
scale; the first fraction digit that does not fit rounds the number and the ones after it are only
checked. Where this form does not fit, a decimal exponent is tried. -/

namespace QueryPlan.Decimal

/-! ## Plain numbers -/

/-- A mantissa and a scale that are still being collected. -/
structure Draft where
  mantissa : Nat
  scale : Nat
deriving DecidableEq

/-- What may follow the digit that rounded the number: digits and underscores. -/
def isIgnored (c : Char) : Bool :=
  c.isDigit || c = '_'

/-- Rounds a draft by the first fraction digit that does not fit. A mantissa that grows out of
    range gives up one fraction digit, if it has one. -/
def Draft.round? (d : Draft) (digit : Nat) : Option Draft :=
  if digit < 5 then some d
  else if d.mantissa + 1 < mantissaLimit then some { d with mantissa := d.mantissa + 1 }
  else if d.scale = 0 then none
  else some { mantissa := (d.mantissa + 5) / 10, scale := d.scale - 1 }

/-- The largest mantissa, without its last digit, after which an underscore behind the last
    possible fraction digit ends the number unrounded; with a larger mantissa the underscore is
    skipped and the next digit rounds. -/
def shortMantissaBound : Nat :=
  1844674407370954905

/-- Collects the digits of a number. `afterPoint` tells whether the point has been passed and
    `started` whether there was a digit. -/
def collect? (d : Draft) (afterPoint started : Bool) : List Char → Option Draft
  | [] => if started then some d else none
  | '_' :: rest =>
    if !started then none
    else if afterPoint && d.scale = 28 && d.mantissa / 10 ≤ shortMantissaBound then
      if rest.all isIgnored then some d else none
    else collect? d afterPoint started rest
  | '.' :: rest => if afterPoint then none else collect? d true started rest
  | c :: rest => do
    let digit ← Text.digitValue? c
    let mantissa := d.mantissa * 10 + digit
    if !afterPoint then
      if mantissa < mantissaLimit then collect? { d with mantissa } afterPoint true rest else none
    else if d.scale < 28 && mantissa < mantissaLimit then
      collect? { mantissa, scale := d.scale + 1 } afterPoint true rest
    else if rest.all isIgnored then d.round? digit
    else none

/-- Reads a number without an exponent. Zero is never negative here. -/
def readPlain? (cs : List Char) : Option Decimal := do
  let (negative, body) := Text.splitSign cs
  let d ← collect? { mantissa := 0, scale := 0 } false false body
  ofParts? (negative && d.mantissa ≠ 0) d.mantissa d.scale

/-! ## Numbers with an exponent -/

/-- Drops `places` fraction digits; the first of them rounds, five and more upwards. -/
def dropPlaces (mantissa places : Nat) : Nat :=
  mantissa / tenPow places + (if mantissa / tenPow (places - 1) % 10 < 5 then 0 else 1)

/-- The number divided by `10 ^ power`. Fraction digits that would stand beyond the largest scale
    are rounded off first; the sign stays even if nothing is left. -/
def divTenPow? (d : Decimal) (power : Nat) : Option Decimal :=
  if 28 < power then none
  else if 28 < d.scale + power then
    ofParts? d.negative (dropPlaces d.mantissa (d.scale + power - 28)) 28
  else ofParts? d.negative d.mantissa (d.scale + power)

/-- The number multiplied by `10 ^ power`. Fraction digits turn into integer digits one by one, so
    trailing zeros stay. -/
def mulTenPow? (d : Decimal) (power : Nat) : Option Decimal :=
  if power ≤ d.scale then ofParts? d.negative d.mantissa (d.scale - power)
  else if 28 < power then none
  else ofParts? d.negative (d.mantissa * tenPow (power - d.scale)) 0

/-- Takes an optional plus sign off the front. -/
def dropPlus : List Char → List Char
  | '+' :: rest => rest
  | cs => cs

/-- Reads a plain number, the mark `e` or `E`, and an exponent: an optional minus, then an optional
    plus, then digits. -/
def readScientific? (cs : List Char) : Option Decimal := do
  let isMark (c : Char) : Bool := c = 'e' || c = 'E'
  let base ← readPlain? (cs.takeWhile (!isMark ·))
  match cs.dropWhile (!isMark ·) with
  | [] => none
  | _ :: '-' :: places => (Text.readNat? (dropPlus places)).bind (divTenPow? base)
  | _ :: places => (Text.readNat? (dropPlus places)).bind (mulTenPow? base)

/-- Reads a decimal number, plain or with an exponent. -/
def read? (cs : List Char) : Option Decimal :=
  (readPlain? cs).orElse fun _ => readScientific? cs

end QueryPlan.Decimal
