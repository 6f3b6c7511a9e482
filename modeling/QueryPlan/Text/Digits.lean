set_option autoImplicit false

/-! # Decimal digits

Reading runs of ASCII digits and writing natural numbers with a fixed width. -/

namespace QueryPlan.Text

/-! ## Reading -/

/-- The value of an ASCII digit. -/
def digitValue? (c : Char) : Option Nat :=
  if c.isDigit then some (c.toNat - '0'.toNat) else none

/-- The number whose decimal digits are `digits`, most significant first. -/
def ofDigits (digits : List Nat) : Nat :=
  digits.foldl (fun value digit => value * 10 + digit) 0

/-- The digits of a text that consists of ASCII digits only. -/
def digits? (cs : List Char) : Option (List Nat) :=
  cs.mapM digitValue?

/-- The number written by a nonempty run of ASCII digits. -/
def readNat? (cs : List Char) : Option Nat :=
  if cs.isEmpty then none else (digits? cs).map ofDigits

/-- Takes an optional sign off the front; `true` stands for a minus. -/
def splitSign : List Char → Bool × List Char
  | '+' :: rest => (false, rest)
  | '-' :: rest => (true, rest)
  | cs => (false, cs)

/-- Reads exactly `width` digits and gives the rest. -/
def takeNat? (width : Nat) (cs : List Char) : Option (Nat × List Char) := do
  let front := cs.take width
  if front.length = width then
    let value ← readNat? front
    return (value, cs.drop width)
  else
    none

/-- The longest run of digits at the front, and the rest. -/
def spanDigits (cs : List Char) : List Nat × List Char :=
  ((cs.takeWhile Char.isDigit).filterMap digitValue?, cs.dropWhile Char.isDigit)

/-! ## Writing -/

/-- A natural number with leading zeros up to `width` digits. -/
def padded (width n : Nat) : String :=
  let digits := toString n
  "".pushn '0' (width - digits.length) ++ digits

/-- The sign of a negative value, or nothing. -/
def signText (negative : Bool) : String :=
  if negative then "-" else ""

end QueryPlan.Text
